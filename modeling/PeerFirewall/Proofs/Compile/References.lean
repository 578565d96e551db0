import Mathlib.Data.List.Nodup
import PeerFirewall.Proofs.Compile.Outcome
import PeerFirewall.Proofs.Compile.Sources
import PeerFirewall.Proofs.Net.CidrText

/-!
# References to sets

A criterion on an address names either a network or, behind an at sign, a set of the same table.
`FirewallSpec.SelfContained` says that names and references fit together, and
`compile_selfContained` that they do in whatever the compiler makes of any rules, whatever the
state of the cluster answers and however namespaces are called.
-/
namespace PeerFirewall

namespace AddressSet

/-- The name of the set that a value refers to; a network refers to none. -/
def referred? (value : String) : Option String :=
  match value.toList with
  | '@' :: name => some (String.ofList name)
  | _ => none

/-- A reference refers to the set of its name. -/
@[simp] theorem referred?_reference (name : String) : referred? (reference name) = some name := by
  simp [referred?, reference]

/-- The text of a network refers to no set. -/
@[simp] theorem referred?_network (network : Net.Cidr) : referred? network.text = none := by
  unfold referred?
  split
  · rename_i letters
    have unmarked := network.at_notMem_text
    simp [letters] at unmarked
  · rfl

end AddressSet

/-- The values of those of the criteria that are on addresses. -/
def Match.values (criteria : List Match) : List String :=
  criteria.filterMap fun criterion => criterion.ip.map (·.value)

/-- The values of the criteria on addresses in a filter rule. -/
def FilterRule.values (filter : FilterRule) : List String := Match.values filter.criteria

namespace FirewallSpec

/-- The filter rules of all chains. -/
def filterRules (spec : FirewallSpec) : List FilterRule :=
  spec.table.chains.flatMap (·.rules.filterRules)

/-- The values of all criteria on addresses. -/
def values (spec : FirewallSpec) : List String := spec.filterRules.flatMap (·.values)

/-- The names of the sets. -/
def setNames (spec : FirewallSpec) : List String := spec.table.sets.map (·.name)

/-- Whether the names in a configuration for that many rules, and the references to them, fit
together. -/
structure SelfContained (spec : FirewallSpec) (rules : Nat) : Prop where
  /-- There is one chain. -/
  chain : spec.table.chains.length = 1
  /-- It has one filter rule more than there are rules. -/
  count : spec.filterRules.length = 1 + rules
  /-- The first one is the baseline. -/
  baseline : spec.filterRules.head? = some baselineRule
  /-- No two filter rules have the same name. -/
  rulesDistinct : (spec.filterRules.map (·.name)).Nodup
  /-- No two sets have the same name. -/
  setsDistinct : spec.setNames.Nodup
  /-- What is referred to is exactly one set. -/
  resolved : ∀ value ∈ spec.values, ∀ name, AddressSet.referred? value = some name →
    spec.setNames.count name = 1
  /-- What refers to no set is a network. -/
  literal : ∀ value ∈ spec.values, AddressSet.referred? value = none →
    ∃ network : Net.Cidr, value = network.text
  /-- Every set is referred to. -/
  used : ∀ name ∈ spec.setNames, AddressSet.reference name ∈ spec.values

end FirewallSpec

/-- Compiled rules in different places have different names. -/
theorem compiledRuleName_injective : Function.Injective compiledRuleName := by
  intro left right same
  exact Net.toString_injective ((String.append_right_inj _).1 same)

/-- No compiled rule has the name of the baseline rule. -/
theorem compiledRuleName_ne_baseline (place : Nat) :
    compiledRuleName place ≠ baselineRule.name := by
  intro same
  have letter : ("allowed-traffic-" ++ toString place).toList[5]? = some 'e' := by
    rw [String.toList_append]
    rfl
  change (compiledRuleName place).toList[5]? = some 'e' at letter
  rw [same] at letter
  simp [baselineRule] at letter

namespace Resolvers

variable {resolvers : Resolvers} {allowed : Answers} {clusterId : String}

/-! ### Names -/

/-- A filled set has the name of its source. -/
theorem FilledSet.name_eq {source : SetSource} {set : AddressSet}
    (filled : FilledSet resolvers allowed clusterId source set) : set.name = source.setName := by
  cases filled <;> rfl

/-- Filled sets have the names of their sources. -/
theorem filledSets_names {sources : List SetSource} {sets : List AddressSet}
    (filled : List.Forall₂ (FilledSet resolvers allowed clusterId) sources sets) :
    sets.map (·.name) = sources.map SetSource.setName := by
  induction filled with
  | nil => rfl
  | cons first rest ih => simp [first.name_eq, ih]

/-- Compiled rules are named by their places. -/
theorem CompiledRules.names {place : Nat} {rules : List Rule} {filters : List FilterRule}
    {sources : List SetSource}
    (compiled : CompiledRules resolvers allowed clusterId place rules filters sources) :
    filters.map (·.name) = (List.range' place rules.length).map compiledRuleName := by
  induction compiled with
  | nil => rfl
  | cons first rest ih =>
    cases first
    simp [List.range'_succ, ih]

/-- There is one compiled rule for each rule. -/
theorem CompiledRules.length_eq {place : Nat} {rules : List Rule} {filters : List FilterRule}
    {sources : List SetSource}
    (compiled : CompiledRules resolvers allowed clusterId place rules filters sources) :
    filters.length = rules.length := by
  simpa using congrArg List.length compiled.names

/-! ### Other answers -/

section

variable {others : Answers}

/-- A side of a rule has the same criteria where the networks that these name may be announced. -/
theorem CompiledSide.imp {position : MatchPosition} {party : Option Party}
    {criteria : List Match} {sources : List SetSource}
    (compiled : CompiledSide resolvers allowed clusterId position party criteria sources)
    (cidrs : ∀ query network, allowed.cidr query network → network.text ∈ Match.values criteria →
      others.cidr query network) :
    CompiledSide resolvers others clusterId position party criteria sources := by
  cases compiled with
  | absent => exact .absent
  | present party strategy value matched stands =>
    refine .present party strategy value matched ?_
    cases stands with
    | set source => exact .set source
    | cidr source network read =>
      exact .cidr source network (cidrs _ _ read (List.mem_singleton_self network.text))

/-- A rule has the same filter rule where the networks that this one names may be announced. -/
theorem CompiledRule.imp {place : Nat} {rule : Rule} {filter : FilterRule}
    {sources : List SetSource}
    (compiled : CompiledRule resolvers allowed clusterId place rule filter sources)
    (cidrs : ∀ query network, allowed.cidr query network → network.text ∈ filter.values →
      others.cidr query network) :
    CompiledRule resolvers others clusterId place rule filter sources := by
  obtain ⟨source, destination, sourceSets, destinationSets, left, right⟩ := compiled
  simp only [FilterRule.values, Match.values, List.filterMap_append, List.mem_append] at cidrs
  exact .mk source destination sourceSets destinationSets
    (left.imp fun query network read named => cidrs query network read (.inl named))
    (right.imp fun query network read named => cidrs query network read (.inr named))

/-- Rules have the same filter rules where the networks that these name may be announced. -/
theorem CompiledRules.imp {place : Nat} {rules : List Rule} {filters : List FilterRule}
    {sources : List SetSource}
    (compiled : CompiledRules resolvers allowed clusterId place rules filters sources)
    (cidrs : ∀ query network, allowed.cidr query network →
      network.text ∈ filters.flatMap (·.values) → others.cidr query network) :
    CompiledRules resolvers others clusterId place rules filters sources := by
  induction compiled with
  | nil place => exact .nil place
  | cons first rest ih =>
    simp only [List.flatMap_cons, List.mem_append] at cidrs
    exact .cons (first.imp fun query network read named => cidrs query network read (.inl named))
      (ih fun query network read named => cidrs query network read (.inr named))

end

/-! ### References -/

/-- Whether values refer to the sets of sources and to no others. -/
structure Mentions (values : List String) (sources : List SetSource) : Prop where
  /-- A value that refers to no set of a source is a network. -/
  origin : ∀ value ∈ values, (∃ source ∈ sources, value = AddressSet.reference source.setName) ∨
    ∃ network : Net.Cidr, value = network.text
  /-- The set of every source is referred to. -/
  referred : ∀ source ∈ sources, AddressSet.reference source.setName ∈ values

/-- No values refer to the sets of no sources. -/
theorem Mentions.nil : Mentions [] [] where
  origin := by simp
  referred := by simp

/-- Values together refer to the sets of their sources together. -/
theorem Mentions.append {left right : List String} {sources others : List SetSource}
    (first : Mentions left sources) (second : Mentions right others) :
    Mentions (left ++ right) (sources ++ others) where
  origin value member := by
    rcases List.mem_append.1 member with member | member
    · rcases first.origin value member with ⟨source, mentioned, same⟩ | literal
      · exact .inl ⟨source, List.mem_append_left _ mentioned, same⟩
      · exact .inr literal
    · rcases second.origin value member with ⟨source, mentioned, same⟩ | literal
      · exact .inl ⟨source, List.mem_append_right _ mentioned, same⟩
      · exact .inr literal
  referred source mentioned := by
    rcases List.mem_append.1 mentioned with mentioned | mentioned
    · exact List.mem_append_left _ (first.referred source mentioned)
    · exact List.mem_append_right _ (second.referred source mentioned)

/-- A side of a rule refers to the sets that it mentions. -/
theorem CompiledSide.mentions {position : MatchPosition} {party : Option Party}
    {criteria : List Match} {sources : List SetSource}
    (compiled : CompiledSide resolvers allowed clusterId position party criteria sources) :
    Mentions (Match.values criteria) sources := by
  cases compiled with
  | absent => exact .nil
  | present party strategy value matched stands =>
    cases stands with
    | set source =>
      constructor <;> simp [Match.values, Match.onIp, Strategy.sets]
    | cidr source network read =>
      constructor
      · intro value member
        have same : value = network.text := by simpa [Match.values, Match.onIp] using member
        exact .inr ⟨network, same⟩
      · simp [Strategy.sets]

/-- A compiled rule refers to the sets that it mentions. -/
theorem CompiledRule.mentions {place : Nat} {rule : Rule} {filter : FilterRule}
    {sources : List SetSource}
    (compiled : CompiledRule resolvers allowed clusterId place rule filter sources) :
    Mentions filter.values sources := by
  cases compiled with
  | mk source destination sourceSets destinationSets left right =>
    have both := left.mentions.append right.mentions
    simpa [FilterRule.values, Match.values] using both

/-- Compiled rules refer to the sets that they mention. -/
theorem CompiledRules.mentions {place : Nat} {rules : List Rule} {filters : List FilterRule}
    {sources : List SetSource}
    (compiled : CompiledRules resolvers allowed clusterId place rules filters sources) :
    Mentions (filters.flatMap (·.values)) sources := by
  induction compiled with
  | nil place => exact .nil
  | cons first rest ih => exact first.mentions.append ih

/-- No name stands twice among those of arranged sources. -/
theorem setNames_nodup (sources : List SetSource) :
    ((SetSource.arrange sources).map SetSource.setName).Nodup :=
  (SetSource.arrange_nodup sources).map SetSource.setName_injective

/-- The name of a source stands once among those of the arranged sources. -/
theorem count_setName {sources : List SetSource} {source : SetSource} (member : source ∈ sources) :
    ((SetSource.arrange sources).map SetSource.setName).count source.setName = 1 := by
  have present : source.setName ∈ (SetSource.arrange sources).map SetSource.setName :=
    List.mem_map_of_mem (SetSource.mem_arrange.2 member)
  exact List.count_eq_one_of_mem (setNames_nodup sources) present

/-! ### The whole configuration -/

/-- The filter rules of a compiled table are those of its chain. -/
theorem filterRules_compiledTable (sets : List AddressSet) (filters : List FilterRule) :
    FirewallSpec.filterRules ⟨compiledTable sets filters⟩ = filters := by
  simp [FirewallSpec.filterRules, compiledTable]

/-- The values of the criteria of a compiled table are those of the rules behind the baseline. -/
theorem values_compiledTable (sets : List AddressSet) (filters : List FilterRule) :
    FirewallSpec.values ⟨compiledTable sets (baselineRule :: filters)⟩ =
      filters.flatMap (·.values) := by
  rw [FirewallSpec.values, filterRules_compiledTable]
  rfl

/-- A configuration as described is self-contained. -/
theorem CompiledSpec.selfContained {rules : List Rule} {spec : FirewallSpec}
    (compiled : CompiledSpec resolvers allowed clusterId rules spec) :
    spec.SelfContained rules.length := by
  cases compiled with
  | mk filters sources sets compiledRules filled =>
    have mentions := compiledRules.mentions
    have filterRules := filterRules_compiledTable sets (baselineRule :: filters)
    have values := values_compiledTable sets filters
    have setNames : FirewallSpec.setNames ⟨compiledTable sets (baselineRule :: filters)⟩ =
        (SetSource.arrange sources).map SetSource.setName := filledSets_names filled
    constructor
    case chain => rfl
    case count => rw [filterRules, List.length_cons, compiledRules.length_eq, Nat.add_comm]
    case baseline => rw [filterRules, List.head?_cons]
    case rulesDistinct =>
      rw [filterRules, List.map_cons, compiledRules.names, List.nodup_cons]
      constructor
      · intro member
        obtain ⟨place, _, same⟩ := List.mem_map.1 member
        exact compiledRuleName_ne_baseline place same
      · exact (List.nodup_range' _).map compiledRuleName_injective
    case setsDistinct =>
      rw [setNames]
      exact setNames_nodup sources
    case resolved =>
      rw [values, setNames]
      intro value member name refers
      rcases mentions.origin value member with ⟨source, mentioned, rfl⟩ | ⟨network, rfl⟩
      · obtain rfl : source.setName = name := by simpa using refers
        exact count_setName mentioned
      · simp at refers
    case literal =>
      rw [values]
      intro value member plain
      rcases mentions.origin value member with ⟨source, mentioned, rfl⟩ | literal
      · simp at plain
      · exact literal
    case used =>
      rw [values, setNames]
      intro name member
      obtain ⟨source, mentioned, rfl⟩ := List.mem_map.1 member
      exact mentions.referred source (SetSource.mem_arrange.1 mentioned)

/-- Whatever the state of the cluster answers while rules are compiled, what comes out is
self-contained, and no network looks like a reference. -/
theorem compile_selfContained {σ : Type}
    (respond : (query : clusterState.Question) → σ → clusterState.Answer query × σ) (state : σ)
    (resolvers : Resolvers) (clusterId : String) (rules : List Rule) (spec : FirewallSpec)
    (compiled : ((resolvers.compile clusterId rules).run.run respond state).1 = .ok spec) :
    spec.SelfContained rules.length ∧
      ∀ network : Net.Cidr, AddressSet.referred? network.text = none := by
  have reached : (resolvers.compile clusterId rules).run.Reaches (fun _ _ => True)
      ((resolvers.compile clusterId rules).run.run respond state).1 :=
    Program.reaches_run (fun _ _ => trivial) _ _
  rw [compiled] at reached
  exact ⟨(compile_reaches_ok.1 reached).selfContained, AddressSet.referred?_network⟩

/-- A group and two namespaces that are called like sets get three sets. -/
theorem compile_selfContained_lookalikes :
    let cluster : SteadyCluster := ⟨fun _ => .ok (.v4 ⟨10, 0, 0, 0⟩ 8), fun _ => .ok []⟩
    let rules : List Rule := [
      ⟨.allow, some (.ofGroup .offloaded), some (.ofNamespace "offloaded")⟩,
      ⟨.deny, some (.ofNamespace "ns-offloaded"), some (.ofGroup .localCluster)⟩]
    ∃ spec,
      ((Resolvers.compile ⟨[.offloaded, .localCluster], []⟩ "peer" rules).run.run
        (fun query turn => (cluster.answer query, turn + 1)) 0).1 = .ok spec ∧
      spec.setNames = ["offloaded", "ns-ns-offloaded", "ns-offloaded"] ∧
      spec.SelfContained 2 := by
  intro cluster rules
  have compiled :
      ((Resolvers.compile ⟨[.offloaded, .localCluster], []⟩ "peer" rules).run.run
        (fun query turn => (cluster.answer query, turn + 1)) 0).1 =
      .ok ⟨compiledTable
        [⟨"offloaded", .ipv4Addr, []⟩, ⟨"ns-ns-offloaded", .ipv4Addr, []⟩,
          ⟨"ns-offloaded", .ipv4Addr, []⟩]
        [baselineRule,
          ⟨"allowed-traffic-0", .accept,
            [.onIp "@offloaded" .src, .onIp "@ns-offloaded" .dst]⟩,
          ⟨"allowed-traffic-1", .drop,
            [.onIp "@ns-ns-offloaded" .src, .onIp "10.0.0.0/8" .dst]⟩]⟩ := by
    decide +kernel
  exact ⟨_, compiled, rfl, (compile_selfContained _ _ _ _ _ _ compiled).1⟩

end Resolvers

end PeerFirewall
