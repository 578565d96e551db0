import PeerFirewall.Fabric.Reads
import PeerFirewall.Proofs.Api.Store
import PeerFirewall.Proofs.Compile.References
import PeerFirewall.Proofs.Json.Record
import PeerFirewall.Proofs.Transcript
import PeerFirewall.Service.Arguments

/-!
# Versions of addresses

A compiled table is of the family of version 4, and so are the keys of its sets. The private ranges
are read as networks of version 4 only; announced networks and the addresses of pods are taken as
they come. So a table holds addresses of version 4 only just where the compiler comes to it from
answers of version 4 among those that it was given (`Resolvers.compile_isIpv4_iff`), and a peer
that announces a network of version 6 gets one that it cannot hold
(`Resolvers.compile_otherVersion`).
-/
namespace PeerFirewall

/-! ### Texts -/

/-- Whether a text is an address of version 4. -/
def IsIpv4Address (text : String) : Prop := ∃ address : Net.Ipv4, text = address.text

/-- Whether a text is a network of version 4. -/
def IsIpv4Network (text : String) : Prop := ∃ network : Net.Cidr, network.isV4 ∧ text = network.text

/-- The text of a network is a network of version 4 just where the network is one. -/
theorem isIpv4Network_text {network : Net.Cidr} : IsIpv4Network network.text ↔ network.isV4 := by
  constructor
  · rintro ⟨other, isV4, same⟩
    rw [Net.Cidr.isV4_of_text same, isV4]
  · exact fun isV4 => ⟨network, isV4, rfl⟩

/-- A text with a colon is no network of version 4. -/
theorem not_isIpv4Network_of_colon {text : String} (colon : ':' ∈ text.toList) :
    ¬ IsIpv4Network text := by
  rintro ⟨network, isV4, rfl⟩
  cases (network.colon_mem_text_iff.1 colon).symm.trans isV4

/-! ### Answers and tables -/

/-- Whether an answer about the cluster holds addresses of version 4 only. -/
def Query.IsIpv4 : (query : Query) → query.Answer → Prop
  | .cidr _, answer => ∀ network, answer = .ok network → network.isV4
  | .pods _, answer => ∀ pods, answer = .ok pods →
    ∀ address ∈ podAddresses pods, IsIpv4Address address ∨ IsIpv4Network address

/-- Those of the allowed answers that hold addresses of version 4 only. -/
def Answers.ipv4 (allowed : Answers) : Answers := fun query answer =>
  allowed query answer ∧ query.IsIpv4 answer

/-- Whether values of criteria are on networks of version 4 or refer to sets. -/
def OnIpv4 (values : List String) : Prop :=
  ∀ value ∈ values, AddressSet.referred? value = none → IsIpv4Network value

/-- Whether the elements of a set are addresses or networks of version 4. -/
def AddressSet.IsIpv4 (set : AddressSet) : Prop :=
  ∀ element ∈ set.elements, IsIpv4Address element.key ∨ IsIpv4Network element.key

/-- Whether a configuration holds addresses of version 4 only. -/
structure FirewallSpec.IsIpv4 (spec : FirewallSpec) : Prop where
  /-- A criterion on an address that refers to no set is on a network of version 4. -/
  criteria : OnIpv4 spec.values
  /-- The elements of the sets are addresses or networks of version 4. -/
  elements : ∀ set ∈ spec.table.sets, set.IsIpv4

/-- Private ranges that are read are networks of version 4. -/
theorem Arguments.isV4_of_readSubnets {text : String} {subnets : List Net.Cidr}
    (reads : readSubnets text = .ok subnets) : ∀ subnet ∈ subnets, subnet.isV4 := by
  unfold readSubnets at reads
  generalize Text.listItems text = items at reads
  induction items generalizing subnets with
  | nil =>
    cases reads
    exact List.forall_mem_nil _
  | cons item rest ih =>
    unfold readItems at reads
    split at reads
    · cases reads
    · rename_i network readsItem
      obtain ⟨others, readsRest, rfl⟩ := Decoder.map_eq_ok.1 reads
      refine List.forall_mem_cons.2 ⟨?_, ih readsRest⟩
      unfold readSubnet at readsItem
      split at readsItem
      · cases readsItem
      · split at readsItem
        · cases readsItem
          assumption
        · cases readsItem

/-- Values of two parts are on networks of version 4 or refer to sets if those of each part do. -/
theorem onIpv4_append {first second : List String} :
    OnIpv4 (first ++ second) ↔ OnIpv4 first ∧ OnIpv4 second := List.forall_mem_append

/-- The values of the criteria of both sides of a rule are those of each side. -/
theorem onIpv4_sides {source destination : List Match} :
    OnIpv4 (Match.values (source ++ destination)) ↔
      OnIpv4 (Match.values source) ∧ OnIpv4 (Match.values destination) := by
  rw [Match.values, List.filterMap_append]
  exact onIpv4_append

namespace Resolvers

variable {resolvers : Resolvers} {allowed : Answers} {clusterId : String}

/-! ### From answers to the table -/

section

variable (ipv4 : ∀ query answer, allowed query answer → query.IsIpv4 answer)
include ipv4

/-- A side of a rule is compiled to networks of version 4 where the answers are of it. -/
theorem CompiledSide.onIpv4 {position : MatchPosition} {party : Option Party}
    {criteria : List Match} {sources : List SetSource}
    (compiled : CompiledSide resolvers allowed clusterId position party criteria sources) :
    OnIpv4 (Match.values criteria) := by
  cases compiled with
  | absent => exact List.forall_mem_nil _
  | present party strategy value matched stands =>
    refine List.forall_mem_singleton.2 fun plain => ?_
    cases stands with
    | set source => simp at plain
    | cidr source network read =>
      exact isIpv4Network_text.2 (ipv4 (.cidr _) (.ok network) read network rfl)

/-- A rule is compiled to networks of version 4 where the answers are of it. -/
theorem CompiledRule.onIpv4 {place : Nat} {rule : Rule} {filter : FilterRule}
    {sources : List SetSource}
    (compiled : CompiledRule resolvers allowed clusterId place rule filter sources) :
    OnIpv4 filter.values := by
  obtain ⟨source, destination, sourceSets, destinationSets, left, right⟩ := compiled
  exact onIpv4_sides.2 ⟨left.onIpv4 ipv4, right.onIpv4 ipv4⟩

/-- Rules are compiled to networks of version 4 where the answers are of it. -/
theorem CompiledRules.onIpv4 {place : Nat} {rules : List Rule} {filters : List FilterRule}
    {sources : List SetSource}
    (compiled : CompiledRules resolvers allowed clusterId place rules filters sources) :
    OnIpv4 (filters.flatMap (·.values)) := by
  induction compiled with
  | nil place => exact List.forall_mem_nil _
  | cons first rest ih =>
    rw [List.flatMap_cons, onIpv4_append]
    exact ⟨first.onIpv4 ipv4, ih⟩

/-- A set is filled with addresses of version 4 where the answers, and the private ranges, are of
it. -/
theorem FilledSet.isIpv4 (subnets : ∀ subnet ∈ resolvers.privateSubnets, subnet.isV4)
    {source : SetSource} {set : AddressSet}
    (filled : FilledSet resolvers allowed clusterId source set) : set.IsIpv4 := by
  cases filled with
  | subnets static =>
    refine List.forall_mem_map.2 fun subnet member => ?_
    exact .inr (isIpv4Network_text.2 (subnets subnet member))
  | pods query pods asks read =>
    exact List.forall_mem_map.2 (ipv4 (.pods query) (.ok pods) read pods rfl)

/-- Sets are filled with addresses of version 4 where the answers, and the private ranges, are of
it. -/
theorem filledSets_isIpv4 (subnets : ∀ subnet ∈ resolvers.privateSubnets, subnet.isV4)
    {sources : List SetSource} {sets : List AddressSet}
    (filled : List.Forall₂ (FilledSet resolvers allowed clusterId) sources sets) :
    ∀ set ∈ sets, set.IsIpv4 := by
  induction filled with
  | nil => exact List.forall_mem_nil _
  | cons first rest ih => exact List.forall_mem_cons.2 ⟨first.isIpv4 ipv4 subnets, ih⟩

end

/-! ### From the table to the answers -/

/-- Rules that are compiled to networks of version 4 are compiled from answers of it. -/
theorem CompiledRules.of_onIpv4 {place : Nat} {rules : List Rule} {filters : List FilterRule}
    {sources : List SetSource}
    (compiled : CompiledRules resolvers allowed clusterId place rules filters sources)
    (onIpv4 : OnIpv4 (filters.flatMap (·.values))) :
    CompiledRules resolvers allowed.ipv4 clusterId place rules filters sources := by
  refine compiled.imp fun query network read named => ⟨read, ?_⟩
  rintro _ ⟨⟩
  exact isIpv4Network_text.1 (onIpv4 _ named (AddressSet.referred?_network network))

/-- A set of addresses of version 4 is filled from answers of it. -/
theorem FilledSet.of_isIpv4 {source : SetSource} {set : AddressSet}
    (filled : FilledSet resolvers allowed clusterId source set) (isIpv4 : set.IsIpv4) :
    FilledSet resolvers allowed.ipv4 clusterId source set := by
  cases filled with
  | subnets static => exact .subnets source static
  | pods query pods asks read =>
    refine .pods source query pods asks ⟨read, ?_⟩
    rintro _ ⟨⟩
    exact List.forall_mem_map.1 isIpv4

/-- Sets of addresses of version 4 are filled from answers of it. -/
theorem filledSets_of_isIpv4 {sources : List SetSource} {sets : List AddressSet}
    (filled : List.Forall₂ (FilledSet resolvers allowed clusterId) sources sets)
    (isIpv4 : ∀ set ∈ sets, set.IsIpv4) :
    List.Forall₂ (FilledSet resolvers allowed.ipv4 clusterId) sources sets := by
  induction filled with
  | nil => exact .nil
  | cons first rest ih =>
    obtain ⟨firstIpv4, restIpv4⟩ := List.forall_mem_cons.1 isIpv4
    exact .cons (first.of_isIpv4 firstIpv4) (ih restIpv4)

/-! ### The whole table -/

/-- A compiled table holds addresses of version 4 only where the answers and the private ranges are
of it. -/
theorem CompiledSpec.isIpv4 (ipv4 : ∀ query answer, allowed query answer → query.IsIpv4 answer)
    (subnets : ∀ subnet ∈ resolvers.privateSubnets, subnet.isV4) {rules : List Rule}
    {spec : FirewallSpec} (compiled : CompiledSpec resolvers allowed clusterId rules spec) :
    spec.IsIpv4 := by
  obtain ⟨filters, sources, sets, compiledRules, filled⟩ := compiled
  constructor
  case criteria =>
    rw [values_compiledTable]
    exact compiledRules.onIpv4 ipv4
  case elements => exact filledSets_isIpv4 ipv4 subnets filled

/-- A compiled table that holds addresses of version 4 only is compiled from answers of it. -/
theorem CompiledSpec.of_isIpv4 {rules : List Rule} {spec : FirewallSpec}
    (compiled : CompiledSpec resolvers allowed clusterId rules spec) (isIpv4 : spec.IsIpv4) :
    CompiledSpec resolvers allowed.ipv4 clusterId rules spec := by
  obtain ⟨filters, sources, sets, compiledRules, filled⟩ := compiled
  have onIpv4 := isIpv4.criteria
  rw [values_compiledTable] at onIpv4
  exact .mk filters sources sets (compiledRules.of_onIpv4 onIpv4)
    (filledSets_of_isIpv4 filled isIpv4.elements)

/-- What is compiled against a cluster whose state is read through the API server, with private
ranges that are read from text, holds addresses of version 4 only just where the compiler comes to
it from answers of version 4 among those that it was given; so it does if all of these are. -/
theorem compile_isIpv4_iff (info : ClusterInfo) (resolvers : Resolvers) (text : String)
    (subnets : Arguments.readSubnets text = .ok resolvers.privateSubnets) (clusterId : String)
    (rules : List Rule) (t : Transcript world) (spec : FirewallSpec)
    (goes : ((resolvers.compile clusterId rules).run.answeredBy info.read).Goes t (.ok spec)) :
    (spec.IsIpv4 ↔ (resolvers.compile clusterId rules).run.Reaches
      (Answers.ipv4 (Program.Answered info.read t)) (.ok spec)) ∧
    ((∀ (query : clusterState.Question) (answer : clusterState.Answer query),
      Program.Answered info.read t query answer → Query.IsIpv4 query answer) → spec.IsIpv4) := by
  have subnetsIpv4 := Arguments.isV4_of_readSubnets subnets
  have compiled := compile_reaches_ok.1 (Program.reaches_of_answeredBy goes)
  constructor
  · rw [compile_reaches_ok]
    constructor
    · exact compiled.of_isIpv4
    · exact fun compiledIpv4 => compiledIpv4.isIpv4 (fun _ _ given => given.2) subnetsIpv4
  · exact fun ipv4 => compiled.isIpv4 ipv4 subnetsIpv4

/-! ### Peers of both versions -/

/-- Answers to the compiler: the peer announces that text as its network, and every pod has that
address. -/
def announcing (cidr address : String) :
    (question : world.Question) → Unit → world.Answer question × Unit
  | .send request, _ =>
    (Store.reply (if request.endpoint.concerns .network
      then Network.encode ⟨.empty, ⟨none⟩, some ⟨some cidr⟩⟩
      else .obj [("items", .arr [(Pod.ofIp (some address)).encode])]), ())
  | .clock, _ => ((⟨0, 0⟩ : Time.Instant), ())
  | .look (.cidr _), _ => (.error ⟨"unknown", []⟩, ())
  | .look (.pods _), _ => (.error ⟨"unknown", []⟩, ())

/-- The groups and private ranges of a controller that is started without flags. -/
def standardResolvers : Resolvers := ⟨Group.all, Arguments.standardSubnets⟩

/-- The private ranges are read from this text. -/
theorem readSubnets_standard :
    Arguments.readSubnets "10.0.0.0/8,172.16.0.0/12,192.168.0.0/16" =
      .ok standardResolvers.privateSubnets := by
  decide +kernel

/-- A rule that lets the peer reach the pods of a namespace. -/
def peerToShop : Rule := ⟨.allow, some (.ofGroup .remoteCluster), some (.ofNamespace "shop")⟩

/-- What the rule is compiled to. -/
def shopSpec (cidr address : String) : FirewallSpec :=
  ⟨compiledTable [⟨"ns-shop", .ipv4Addr, [⟨address⟩]⟩]
    [baselineRule, ⟨"allowed-traffic-0", .accept, [.onIp cidr .src, .onIp "@ns-shop" .dst]⟩]⟩

/-- The compiler against a cluster whose state is read through the API server. -/
def compileShop : Program world (Except CompileError FirewallSpec) :=
  (standardResolvers.compile "peer" [peerToShop]).run.answeredBy ClusterInfo.standard.read

/-- A table with a network and a pod of version 4 is compiled from answers of it. -/
theorem compile_isIpv4_shop :
    ∃ t, (shopSpec "10.80.0.0/16" "10.80.0.7").IsIpv4 ∧
      (standardResolvers.compile "peer" [peerToShop]).run.Reaches
        (Answers.ipv4 (Program.Answered (I := clusterState) ClusterInfo.standard.read t))
        (.ok (shopSpec "10.80.0.0/16" "10.80.0.7")) := by
  have comes : (compileShop.run (announcing "10.80.0.0/16" "10.80.0.7") ()).1 =
      .ok (shopSpec "10.80.0.0/16" "10.80.0.7") := by
    decide +kernel
  obtain ⟨t, goes⟩ := Program.exists_goes comes
  have isIpv4 : (shopSpec "10.80.0.0/16" "10.80.0.7").IsIpv4 := by
    constructor
    case criteria =>
      have network : "10.80.0.0/16" = (Net.Cidr.v4 ⟨10, 80, 0, 0⟩ 16).text := by decide +kernel
      refine List.forall_mem_cons.2 ⟨fun _ => ⟨_, rfl, network⟩, ?_⟩
      exact List.forall_mem_singleton.2 fun plain => by cases plain
    case elements =>
      have address : "10.80.0.7" = (⟨10, 80, 0, 7⟩ : Net.Ipv4).text := by decide +kernel
      exact List.forall_mem_singleton.2 (List.forall_mem_singleton.2 (.inl ⟨_, address⟩))
  exact ⟨t, isIpv4, (compile_isIpv4_iff .standard standardResolvers _ readSubnets_standard "peer"
    [peerToShop] t _ goes).1.1 isIpv4⟩

/-- It is not so that what is compiled holds addresses of version 4 only: a peer may announce a
network of version 6, and a pod may have an address of version 6. -/
theorem compile_otherVersion :
    ¬ ∀ (info : ClusterInfo) (resolvers : Resolvers) (text : String),
      Arguments.readSubnets text = .ok resolvers.privateSubnets →
      ∀ (clusterId : String) (rules : List Rule) (t : Transcript world) (spec : FirewallSpec),
        ((resolvers.compile clusterId rules).run.answeredBy info.read).Goes t (.ok spec) →
        spec.IsIpv4 := by
  intro always
  have comes : (compileShop.run (announcing "fd00::/64" "fd00::1") ()).1 =
      .ok (shopSpec "fd00::/64" "fd00::1") := by
    decide +kernel
  obtain ⟨t, goes⟩ := Program.exists_goes comes
  have isIpv4 := always .standard standardResolvers _ readSubnets_standard "peer" [peerToShop] t _
    goes
  have network : IsIpv4Network "fd00::/64" :=
    isIpv4.criteria _ List.mem_cons_self (by decide +kernel)
  exact not_isIpv4Network_of_colon (by decide) network

end Resolvers

end PeerFirewall
