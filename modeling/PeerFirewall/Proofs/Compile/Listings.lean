import PeerFirewall.Proofs.Compile.Reorder
import PeerFirewall.Proofs.Compile.RuleOrder
import PeerFirewall.Proofs.Text.Utf8

/-!
# Pods listed in another order

A cluster may list its pods in another order each time. Compiling goes on in the same way whatever
the order is (`Resolvers.compile_disregards`), so over two clusters whose answers agree but for that
it asks the same and comes to the same, be it a configuration or an error. In a configuration the
elements of a set of pods are the addresses in the one listing that was made for it: in the order of
their bytes, and each as often as pods have it (`AddressSet.Lists`).
-/
namespace PeerFirewall

/-- Whether answers about the cluster agree, but for the order in which pods are listed. -/
inductive Relisted : (query : clusterState.Question) →
    clusterState.Answer query → clusterState.Answer query → Prop
  | same {query : clusterState.Question} (answer : clusterState.Answer query) :
      Relisted query answer answer
  | pods {query : PodQuery} {listed relisted : List Pod} (reordered : listed.Perm relisted) :
      Relisted (Query.pods query) (Except.ok listed) (Except.ok relisted)

/-! ### The elements of a set -/

namespace AddressSet

/-- The keys of the elements of a set. -/
def keys (set : AddressSet) : List String := set.elements.map (·.key)

/-- Whether the elements of a set are the addresses of pods. -/
structure Lists (set : AddressSet) (pods : List Pod) : Prop where
  /-- They are in ascending order of their bytes. -/
  ascending : set.keys.Pairwise fun key other => Text.utf8Bytes key ≤ Text.utf8Bytes other
  /-- An address stands there once for each pod that has it. -/
  each : ∀ address, address ≠ "" →
    set.keys.count address = pods.countP fun pod => pod.podIp = some address
  /-- An empty one does not stand there. -/
  filled : "" ∉ set.keys
  /-- There are as many as there are pods with an address that is not empty. -/
  length : set.elements.length = pods.countP fun pod => pod.podIp.any (· ≠ "")

end AddressSet

/-- The keys of a set of pods are their addresses. -/
theorem keys_podSet (name : String) (pods : List Pod) :
    (podSet name pods).keys = podAddresses pods := by
  rw [AddressSet.keys, podSet, List.map_map]
  exact List.map_id _

/-- A set of pods holds their addresses. -/
theorem podSet_lists (name : String) (pods : List Pod) : (podSet name pods).Lists pods where
  ascending := by
    rw [keys_podSet]
    exact (pairwise_podAddresses pods).imp (Text.utf8Bytes_le_iff _ _).2
  each address isSome := by
    rw [keys_podSet, (podAddresses_listed pods).count_eq, List.count_filter (by simpa using isSome),
      List.count_filterMap]
    exact List.countP_congr fun pod _ => by simp
  filled := by
    rw [keys_podSet, (podAddresses_listed pods).mem_iff]
    simp
  length := by
    rw [← List.length_map SetElement.key, ← AddressSet.keys, keys_podSet,
      (podAddresses_listed pods).length_eq, ← List.countP_eq_length_filter, List.countP_filterMap]
    refine List.countP_congr fun pod _ => ?_
    cases pod.podIp <;> simp

namespace Resolvers

variable {resolvers : Resolvers} {clusterId : String}

/-! ### Compiling disregards the order -/

/-- The criterion for a strategy mentions no pods. -/
theorem criterion_disregards (strategy : Strategy) (position : MatchPosition) :
    (criterion clusterId strategy position).run.Disregards Relisted := by
  cases strategy with
  | set source => trivial
  | cidr source =>
    refine Program.Disregards.bindOk ⟨fun answer other relates => ?_, fun _ => trivial⟩
      fun _ => trivial
    cases relates
    rfl

/-- A side of a rule mentions no pods. -/
theorem compileSide_disregards (position : MatchPosition) (party : Option Party) :
    (resolvers.compileSide clusterId position party).run.Disregards Relisted := by
  cases party with
  | none => trivial
  | some party =>
    have matching : (ExceptT.mk (.done (resolvers.strategy party)) :
        Compilation Strategy).run.Disregards Relisted := trivial
    exact matching.bindOk fun strategy =>
      (criterion_disregards strategy position).bindOk fun _ => trivial

/-- Rules mention no pods. -/
theorem compileRules_disregards (place : Nat) (rules : List Rule) :
    (resolvers.compileRules clusterId place rules).run.Disregards Relisted := by
  induction rules generalizing place with
  | nil => trivial
  | cons rule rest ih =>
    have first : (resolvers.compileRule clusterId place rule).run.Disregards Relisted :=
      (compileSide_disregards .src rule.source).bindOk fun _ =>
        (compileSide_disregards .dst rule.destination).bindOk fun _ => trivial
    exact first.bindOk fun _ => (ih (place + 1)).bindOk fun _ => trivial

/-- The filling of a set disregards the order of the pods. -/
theorem makeSet_disregards (source : SetSource) :
    (resolvers.makeSet clusterId source).run.Disregards Relisted := by
  unfold makeSet
  cases source.query? clusterId with
  | none => trivial
  | some query =>
    -- The listing itself differs, and only what is made of it does not.
    refine ⟨fun answer other relates => ?_, fun answer => ?_⟩
    · cases relates with
      | same => rfl
      | pods reordered =>
        change Program.done (Except.ok (podSet source.setName _)) =
          Program.done (Except.ok (podSet source.setName _))
        rw [podSet_perm source.setName reordered]
    · cases answer <;> trivial

/-- The filling of sets disregards the order of the pods. -/
theorem makeSets_disregards (sources : List SetSource) :
    (resolvers.makeSets clusterId sources).run.Disregards Relisted := by
  induction sources with
  | nil => trivial
  | cons source rest ih =>
    exact (makeSet_disregards source).bindOk fun _ => ih.bindOk fun _ => trivial

/-- Compiling disregards the order of the pods. -/
theorem compile_disregards (rules : List Rule) :
    (resolvers.compile clusterId rules).run.Disregards Relisted :=
  (compileRules_disregards 0 rules).bindOk fun _ =>
    (makeSets_disregards _).bindOk fun _ => trivial

/-! ### What was listed -/

/-- Whether a set is that of a source, and filled with what was listed for it: if the source is
pods, they were listed once, and the elements are their addresses. -/
structure FilledFrom (clusterId : String) (t : Transcript clusterState) (source : SetSource)
    (set : AddressSet) : Prop where
  name : set.name = source.setName
  listed : ∀ query, source.query? clusterId = some query →
    ∃ pods, ⟨Query.pods query, Except.ok pods⟩ ∈ t ∧
      (t.map Sigma.fst).count (Query.pods query) = 1 ∧ set.Lists pods

/-- A set that is filled with an answer is filled with what was listed, where nothing is listed
twice. -/
theorem FilledSet.from {t : Transcript clusterState} {source : SetSource} {set : AddressSet}
    (filled : FilledSet resolvers (fun query given => ⟨query, given⟩ ∈ t) clusterId source set)
    (once : ∀ query, (t.map Sigma.fst).count (Query.pods query) ≤ 1) :
    FilledFrom clusterId t source set where
  name := filled.name_eq
  listed query asks := by
    cases filled with
    | subnets static => simp [static] at asks
    | pods other pods asksToo read =>
      cases asks.symm.trans asksToo
      have present : Query.pods query ∈ t.map Sigma.fst := List.mem_map_of_mem read
      refine ⟨pods, read, Nat.le_antisymm (once query) ?_, podSet_lists _ pods⟩
      exact List.count_pos_iff.2 present

/-- Compiling lists nothing twice. -/
theorem compile_listsOnce {σ : Type}
    (respond : (query : clusterState.Question) → σ → clusterState.Answer query × σ) (s : σ)
    (rules : List Rule) (query : PodQuery) :
    (((resolvers.compile clusterId rules).run.transcript respond s).map Sigma.fst).count
      (Query.pods query) ≤ 1 := by
  have networks : Query.pods query ∉ resolvers.networkReads clusterId rules := by
    simp [networkReads]
  rw [compile_asks]
  calc
    _ ≤ ((resolvers.requirements rules).filterMap (Requirement.query? clusterId)).count
        (Query.pods query) := ((List.take_sublist _ _).filterMap _).count_le _
    _ = (resolvers.podListings clusterId rules).count (Query.pods query) := by
      rw [query?_requirements, List.count_append, List.count_eq_zero.2 networks, Nat.zero_add]
    _ ≤ 1 := List.nodup_iff_count_le_one.1 (resolvers.podListings_nodup clusterId rules) _

/-- Over clusters whose answers agree but for the order in which pods are listed, compiling asks the
same and comes to the same. The sets of a configuration are those that stand for a party, and each
set of pods is filled with the addresses in the one listing that was made for it. -/
theorem compile_relisted {σ τ : Type}
    (respond : (query : clusterState.Question) → σ → clusterState.Answer query × σ)
    (other : (query : clusterState.Question) → τ → clusterState.Answer query × τ)
    (alike : σ → τ → Prop) (agree : Program.AnswersAlike Relisted respond other alike) (s : σ)
    (t : τ) (starts : alike s t) (resolvers : Resolvers) (clusterId : String) (rules : List Rule) :
    let compiling := (resolvers.compile clusterId rules).run
    (compiling.run respond s).1 = (compiling.run other t).1 ∧
    (compiling.transcript respond s).map Sigma.fst = (compiling.transcript other t).map Sigma.fst ∧
    ∀ spec, (compiling.run respond s).1 = .ok spec →
      List.Forall₂ (FilledFrom clusterId (compiling.transcript respond s))
        (resolvers.setsOfRules rules) spec.table.sets := by
  intro compiling
  obtain ⟨ends, asks⟩ := (compile_disregards rules).run_eq agree starts
  refine ⟨ends, asks, fun spec compiled => ?_⟩
  have reached := Program.reaches_of_goes (Program.goes_run respond compiling s)
  rw [compiled] at reached
  obtain ⟨filters, sources, sets, compiledRules, filled⟩ := compile_reaches_ok.1 reached
  rw [compiledRules.sources_eq] at filled
  exact filled.imp fun _ _ isFilled => isFilled.from (compile_listsOnce respond s rules)

/-- A cluster lists its pods forwards and backwards in turn, and another one in a third order. Of
the pods two have one address, one has none and one an empty one. -/
theorem compile_relisted_turning :
    let pods : List Pod := [.ofIp (some "10.1.0.9"), .ofIp none, .ofIp (some "10.1.0.10"),
      .ofIp (some ""), .ofIp (some "10.1.0.9")]
    let network : Net.Cidr := .v4 ⟨10, 0, 0, 0⟩ 8
    let answer (listed : List Pod) : (query : clusterState.Question) → clusterState.Answer query
      | .cidr _ => .ok network
      | .pods _ => .ok listed
    let respond (query : clusterState.Question) (forwards : Bool) :=
      (answer (if forwards then pods else pods.reverse) query, !forwards)
    let other (query : clusterState.Question) (_ : Unit) := (answer (pods.rotate 2) query, ())
    let rules : List Rule := [
      ⟨.allow, some (.ofNamespace "shop"), some (.ofGroup .localCluster)⟩,
      ⟨.deny, some (.ofGroup .offloaded), some (.ofNamespace "shop")⟩]
    let compiling := (Resolvers.compile ⟨[.offloaded, .localCluster], []⟩ "peer" rules).run
    ∃ spec, (compiling.run respond true).1 = .ok spec ∧ (compiling.run other ()).1 = .ok spec ∧
      spec.table.sets.map (fun set => (set.name, set.keys)) =
        [("offloaded", ["10.1.0.10", "10.1.0.9", "10.1.0.9"]),
          ("ns-shop", ["10.1.0.10", "10.1.0.9", "10.1.0.9"])] ∧
      List.Forall₂ (FilledFrom "peer" (compiling.transcript respond true))
        [.offloaded, .ofNamespace "shop"] spec.table.sets := by
  intro pods network answer respond other rules compiling
  have rotated : pods.Perm (pods.rotate 2) := by decide +kernel
  have agree : Program.AnswersAlike Relisted respond other fun _ _ => True := by
    refine ⟨fun query forwards _ _ => ?_, fun _ _ _ _ => trivial⟩
    cases query with
    | cidr query => exact .same _
    | pods query =>
      cases forwards with
      | true => exact .pods rotated
      | false => exact .pods ((List.reverse_perm pods).trans rotated)
  have addresses : podAddresses pods = ["10.1.0.10", "10.1.0.9", "10.1.0.9"] :=
    podAddresses_eq (by decide) (by decide)
  have addressesToo : podAddresses pods.reverse = podAddresses pods :=
    podAddresses_perm (List.reverse_perm pods)
  have compiled : (compiling.run respond true).1 = .ok ⟨compiledTable
      [podSet "offloaded" pods.reverse, podSet "ns-shop" pods]
      [baselineRule,
        ⟨"allowed-traffic-0", .accept, [.onIp "@ns-shop" .src, .onIp network.text .dst]⟩,
        ⟨"allowed-traffic-1", .drop, [.onIp "@offloaded" .src, .onIp "@ns-shop" .dst]⟩]⟩ := by
    rfl
  obtain ⟨same, -, filled⟩ := compile_relisted respond other _ agree true () trivial
    ⟨[.offloaded, .localCluster], []⟩ "peer" rules
  refine ⟨_, compiled, same.symm.trans compiled, ?_, filled _ compiled⟩
  simp only [compiledTable, List.map_cons, List.map_nil, keys_podSet, addresses, addressesToo]
  rfl

end Resolvers

end PeerFirewall
