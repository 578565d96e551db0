import Mathlib.Data.List.Forall2
import PeerFirewall.Proofs.Compile.Packet

/-!
# Compiled policies mean what policies mean

The chain that rules are compiled to makes of every packet what the rules make of it
(`compile_fate`): sets stand for what their references are meant for, so criteria hold where
sides contain, filter rules match where rules apply, and the first of the one is the first of the
other.
-/
namespace PeerFirewall

variable {Address : Type} {covers : String → Address → Bool}

/-! ### Sets -/

/-- The set of pods contains what their addresses cover. -/
theorem podSet_contains (name : String) (pods : List Pod) (address : Address) :
    (podSet name pods).contains covers address = podsContain covers (.ok pods) address := by
  rw [Bool.eq_iff_iff]
  simp only [AddressSet.contains, podSet, podAddresses, podsContain, List.any_map, List.any_eq_true,
    Function.comp_apply]
  constructor
  · intro covers
    obtain ⟨ip, listed, covered⟩ := covers
    rw [(List.mergeSort_perm _ _).mem_iff, List.mem_filter, List.mem_filterMap] at listed
    obtain ⟨⟨pod, member, hasIp⟩, nonempty⟩ := listed
    refine ⟨pod, member, ?_⟩
    rw [hasIp]
    exact Bool.and_eq_true_iff.2 ⟨nonempty, covered⟩
  · intro covers
    obtain ⟨pod, member, covered⟩ := covers
    cases hasIp : pod.podIp with
    | none => simp [hasIp] at covered
    | some ip =>
      rw [hasIp] at covered
      obtain ⟨nonempty, covered⟩ := Bool.and_eq_true_iff.1 covered
      refine ⟨ip, ?_, covered⟩
      rw [(List.mergeSort_perm _ _).mem_iff, List.mem_filter, List.mem_filterMap]
      exact ⟨⟨pod, member, hasIp⟩, nonempty⟩

/-- The set of networks contains what they cover. -/
theorem subnetSet_contains (name : String) (subnets : List Net.Cidr) (address : Address) :
    (subnetSet name subnets).contains covers address =
      subnets.any fun subnet => covers subnet.text address := by
  simp [AddressSet.contains, subnetSet, List.any_map, Function.comp_def]

namespace Resolvers

/-- The answers of a steady cluster are the only ones allowed. -/
def onlyAnswers (cluster : SteadyCluster) : Answers :=
  fun query given => given = cluster.answer query

variable {resolvers : Resolvers} {cluster : SteadyCluster} {clusterId : String}

/-- Whether what a set is taken from contains an address. -/
def sourceContains (covers : String → Address → Bool) (resolvers : Resolvers)
    (cluster : SteadyCluster) (clusterId : String) (source : SetSource) (address : Address) :
    Bool :=
  match source.query? clusterId with
  | some query => podsContain covers (cluster.pods query) address
  | none => resolvers.privateSubnets.any fun subnet => covers subnet.text address

/-- A filled set contains what its source contains. -/
theorem FilledSet.contains_eq {source : SetSource} {set : AddressSet}
    (filled : FilledSet resolvers (onlyAnswers cluster) clusterId source set) (address : Address) :
    set.contains covers address =
      sourceContains covers resolvers cluster clusterId source address := by
  cases filled with
  | subnets static =>
    rw [sourceContains, static]
    exact subnetSet_contains _ _ _
  | pods query pods asks read =>
    have answered : cluster.pods query = .ok pods := read.symm
    rw [podSet_contains, ← answered, sourceContains, asks]

/-- The set of each source is found by its name. -/
theorem find?_setName {sources : List SetSource} {sets : List AddressSet}
    (filled : List.Forall₂ (FilledSet resolvers (onlyAnswers cluster) clusterId) sources sets)
    {source : SetSource} (member : source ∈ sources) :
    ∃ set, (sets.find? fun set => set.name = source.setName) = some set ∧
      FilledSet resolvers (onlyAnswers cluster) clusterId source set := by
  induction filled with
  | nil => contradiction
  | @cons head set rest others first later ih =>
    by_cases same : head = source
    · subst same
      exact ⟨set, by simp [first.name_eq], first⟩
    · have differs : set.name ≠ source.setName := by
        rw [first.name_eq]
        exact fun names => same (SetSource.setName_injective names)
      obtain ⟨found, finds, isFilled⟩ := ih ((List.mem_cons.1 member).resolve_left (Ne.symm same))
      refine ⟨found, ?_, isFilled⟩
      rw [List.find?_cons_of_neg (by simpa using differs)]
      exact finds

/-- The reference to the set of a source contains what the source contains. -/
theorem reference_contains {sources : List SetSource} {sets : List AddressSet}
    (filled : List.Forall₂ (FilledSet resolvers (onlyAnswers cluster) clusterId) sources sets)
    {source : SetSource} (member : source ∈ sources) (address : Address) :
    AddressSet.valueContains covers sets (AddressSet.reference source.setName) address =
      sourceContains covers resolvers cluster clusterId source address := by
  obtain ⟨set, finds, isFilled⟩ := find?_setName filled member
  rw [AddressSet.valueContains, AddressSet.referred?_reference]
  simp only [finds]
  exact isFilled.contains_eq address

/-! ### Parties -/

/-- What the parties of a policy are read from when it is compiled. -/
def view (resolvers : Resolvers) (cluster : SteadyCluster) (clusterId : String) : PolicyView :=
  ⟨resolvers.privateSubnets, cluster, clusterId⟩

/-- A party that is matched by a set contains what the source of the set contains. -/
theorem partyContains_set {party : Party} {source : SetSource}
    (matched : resolvers.strategy party = .ok (.set source)) (address : Address) :
    (view resolvers cluster clusterId).partyContains covers party address =
      sourceContains covers resolvers cluster clusterId source address := by
  obtain ⟨group, -, rfl, same⟩ | ⟨name, -, rfl, same⟩ := strategy_eq_ok_iff.1 matched
  · cases group <;> cases same <;> rfl
  · cases same
    rfl

/-- A party that is matched by a network contains what the network covers. -/
theorem partyContains_cidr {party : Party} {source : CidrSource} {network : Net.Cidr}
    (matched : resolvers.strategy party = .ok (.cidr source))
    (read : cluster.network (source.query clusterId) = .ok network) (address : Address) :
    (view resolvers cluster clusterId).partyContains covers party address =
      covers network.text address := by
  obtain ⟨group, -, rfl, same⟩ | ⟨name, -, rfl, same⟩ := strategy_eq_ok_iff.1 matched
  · cases group <;> cases same <;> exact congrArg (networkContains covers · address) read
  · cases same

/-! ### Rules -/

/-- The criteria of a side hold of the packets whose address the side contains. -/
theorem CompiledSide.holds_eq {position : MatchPosition} {side : Option Party}
    {criteria : List Match} {mentioned sources : List SetSource} {sets : List AddressSet}
    (compiled : CompiledSide resolvers (onlyAnswers cluster) clusterId position side criteria
      mentioned)
    (filled : List.Forall₂ (FilledSet resolvers (onlyAnswers cluster) clusterId) sources sets)
    (known : mentioned ⊆ sources) (packet : Packet Address) :
    (criteria.all fun criterion => criterion.holds covers sets packet) =
      (view resolvers cluster clusterId).sideContains covers side (packet.address position) := by
  cases compiled with
  | absent => rfl
  | present party strategy value matched stands =>
    have one : ([Match.onIp value position].all fun criterion =>
        criterion.holds covers sets packet) =
        AddressSet.valueContains covers sets value (packet.address position) := by
      simp [Match.holds, Match.onIp]
    rw [one, PolicyView.sideContains, Option.all_some]
    cases stands with
    | set source =>
      rw [partyContains_set matched]
      exact reference_contains filled (known (List.mem_singleton_self source)) _
    | cidr source network read =>
      have answered : cluster.network (source.query clusterId) = .ok network := read.symm
      rw [partyContains_cidr matched answered, AddressSet.valueContains,
        AddressSet.referred?_network]

/-- A compiled rule matches the packets that the rule applies to. -/
theorem CompiledRule.applies_eq {place : Nat} {rule : Rule} {filter : FilterRule}
    {mentioned sources : List SetSource} {sets : List AddressSet}
    (compiled : CompiledRule resolvers (onlyAnswers cluster) clusterId place rule filter mentioned)
    (filled : List.Forall₂ (FilledSet resolvers (onlyAnswers cluster) clusterId) sources sets)
    (known : mentioned ⊆ sources) (packet : Packet Address) :
    filter.applies covers sets packet =
      (view resolvers cluster clusterId).ruleApplies covers packet rule := by
  cases compiled with
  | mk source destination sourceSets destinationSets left right =>
    have ⟨knownLeft, knownRight⟩ := List.append_subset.1 known
    rw [FilterRule.applies, List.all_append, left.holds_eq filled knownLeft,
      right.holds_eq filled knownRight]
    rfl

/-- A compiled rule makes of a packet what the rule makes of it. -/
theorem CompiledRule.fate_eq {allowed : Answers} {place : Nat} {rule : Rule}
    {filter : FilterRule} {mentioned : List SetSource}
    (compiled : CompiledRule resolvers allowed clusterId place rule filter mentioned) :
    filter.action.fate = rule.action.fate := by
  cases compiled
  cases rule.action <;> rfl

/-- The first compiled rule that matches a packet decides as the first rule that applies to it. -/
theorem CompiledRules.fate_eq {place : Nat} {rules : List Rule} {filters : List FilterRule}
    {mentioned sources : List SetSource} {sets : List AddressSet}
    (compiled : CompiledRules resolvers (onlyAnswers cluster) clusterId place rules filters
      mentioned)
    (filled : List.Forall₂ (FilledSet resolvers (onlyAnswers cluster) clusterId) sources sets)
    (known : mentioned ⊆ sources) (packet : Packet Address) :
    (filters.find? fun filter => filter.applies covers sets packet).map (·.action.fate) =
      (rules.find? fun rule =>
        (view resolvers cluster clusterId).ruleApplies covers packet rule).map
          (·.action.fate) := by
  induction compiled with
  | nil place => rfl
  | cons first rest ih =>
    have ⟨knownFirst, knownRest⟩ := List.append_subset.1 known
    simp only [List.find?_cons, first.applies_eq filled knownFirst]
    split
    · exact congrArg some first.fate_eq
    · exact ih knownRest

/-! ### Policies -/

/-- The baseline rule matches the packets of known connections. -/
theorem baselineRule_applies (sets : List AddressSet) (packet : Packet Address) :
    baselineRule.applies covers sets packet =
      decide (packet.state = .established ∨ packet.state = .related) := by
  cases packet with
  | mk source destination state => cases state <;> rfl

/-- The chain of a configuration as described makes of packets what the rules make of them. -/
theorem CompiledSpec.fate_eq {rules : List Rule} {spec : FirewallSpec}
    (compiled : CompiledSpec resolvers (onlyAnswers cluster) clusterId rules spec)
    (packet : Packet Address) :
    ∃ chain, spec.table.chains = [chain] ∧
      chain.fate covers spec.table.sets packet =
        (view resolvers cluster clusterId).fate covers rules packet := by
  cases compiled with
  | mk filters sources sets compiledRules filled =>
    refine ⟨_, rfl, ?_⟩
    have known : sources ⊆ SetSource.arrange sources :=
      fun source member => SetSource.mem_arrange.2 member
    have later : (filters.find? fun filter => filter.applies covers sets packet).map
          (·.action.fate) = _ :=
      compiledRules.fate_eq filled known packet
    simp only [Chain.fate, PolicyView.fate, compiledTable, List.find?_cons,
      baselineRule_applies]
    by_cases isKnown : packet.state = .established ∨ packet.state = .related
    · simp only [isKnown, decide_true, if_true]
      rfl
    · simp only [isKnown, decide_false, if_false]
      cases found : filters.find? fun filter => filter.applies covers sets packet with
      | none =>
        rw [found, Option.map_none, eq_comm, Option.map_eq_none_iff] at later
        simp only [later]
        rfl
      | some filter =>
        rw [found, Option.map_some, eq_comm, Option.map_eq_some_iff] at later
        obtain ⟨rule, applies, sameFate⟩ := later
        simp only [applies, sameFate]

/-- Where the state of the cluster does not change while rules are compiled, the chain that comes
out makes of every packet what the rules make of it. -/
theorem compile_fate (covers : String → Address → Bool) (resolvers : Resolvers)
    (cluster : SteadyCluster) (clusterId : String) (rules : List Rule) (spec : FirewallSpec)
    (compiled : (resolvers.compile clusterId rules).run.eval cluster.answer = .ok spec)
    (packet : Packet Address) :
    ∃ chain, spec.table.chains = [chain] ∧
      chain.fate covers spec.table.sets packet =
        (view resolvers cluster clusterId).fate covers rules packet :=
  (compile_reaches_ok.1 ((Program.reaches_eval _ _ _).2 compiled)).fate_eq packet

/-- What is denied from offloaded pods to a namespace that is called like their set is dropped. -/
theorem compile_fate_lookalikes :
    let cluster : SteadyCluster := ⟨fun _ => .ok (.v4 ⟨10, 0, 0, 0⟩ 8), fun query =>
      .ok (match query with
        | .offloadedFrom _ => [⟨.empty, none, some ""⟩, ⟨.empty, none, some "10.0.0.1"⟩]
        | .inNamespace _ => [⟨.empty, none, some "10.0.0.3"⟩, ⟨.empty, none, none⟩]
        | _ => [])⟩
    let rules : List Rule := [
      ⟨.deny, some (.ofGroup .offloaded), some (.ofNamespace "offloaded")⟩,
      ⟨.allow, none, none⟩]
    ∃ spec chain,
      (Resolvers.compile ⟨[.offloaded], []⟩ "peer" rules).run.eval cluster.answer = .ok spec ∧
      spec.table.chains = [chain] ∧
      chain.fate (fun text address => text == address) spec.table.sets
        ⟨"10.0.0.1", "10.0.0.3", .new⟩ = .dropped := by
  intro cluster rules
  have compiled :
      (Resolvers.compile ⟨[.offloaded], []⟩ "peer" rules).run.eval cluster.answer =
      .ok ⟨compiledTable
        [⟨"offloaded", .ipv4Addr, [⟨"10.0.0.1"⟩]⟩,
          ⟨"ns-offloaded", .ipv4Addr, [⟨"10.0.0.3"⟩]⟩]
        [baselineRule,
          ⟨"allowed-traffic-0", .drop,
            [.onIp "@offloaded" .src, .onIp "@ns-offloaded" .dst]⟩,
          ⟨"allowed-traffic-1", .accept, []⟩]⟩ := by
    decide +kernel
  obtain ⟨chain, only, fate⟩ := compile_fate (fun text address => text == address)
    ⟨[.offloaded], []⟩ cluster "peer" rules _ compiled ⟨"10.0.0.1", "10.0.0.3", .new⟩
  refine ⟨_, chain, compiled, only, fate.trans ?_⟩
  decide +kernel

end Resolvers

end PeerFirewall
