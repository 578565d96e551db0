import PeerFirewall.Proofs.Compile.References

/-!
# The order of listed pods does not matter

The elements of a set stand in the order of their texts, so a set of pods is the same in whatever
order the pods are listed (`podSet_perm`). Rules compile to the same configuration over two states
of the cluster that announce the same networks and list the same pods
(`Resolvers.compile_reorder`).
-/
namespace PeerFirewall

/-- The addresses of pods are in order. -/
theorem pairwise_podAddresses (pods : List Pod) :
    (podAddresses pods).Pairwise fun a b => a ≤ b := by
  have transitive (a b c : String) : decide (a ≤ b) → decide (b ≤ c) → decide (a ≤ c) := by
    simpa using String.le_trans
  have total (a b : String) : (decide (a ≤ b) || decide (b ≤ a)) = true := by
    simpa using String.le_total a b
  exact (List.pairwise_mergeSort transitive total _).imp of_decide_eq_true

/-- The addresses of pods are those that they have and that are not empty. -/
theorem podAddresses_listed (pods : List Pod) :
    (podAddresses pods).Perm ((pods.filterMap (·.podIp)).filter (· ≠ "")) :=
  List.mergeSort_perm _ _

/-- The addresses of pods are settled by which they are. -/
theorem podAddresses_eq {pods : List Pod} {addresses : List String}
    (listed : ((pods.filterMap (·.podIp)).filter (· ≠ "")).Perm addresses)
    (ordered : addresses.Pairwise fun a b => a ≤ b) : podAddresses pods = addresses :=
  ((podAddresses_listed pods).trans listed).eq_of_pairwise (fun _ _ _ _ => String.le_antisymm)
    (pairwise_podAddresses pods) ordered

/-- The addresses of pods do not depend on the order of the pods. -/
theorem podAddresses_perm {pods others : List Pod} (reordered : pods.Perm others) :
    podAddresses pods = podAddresses others := by
  have listed : ((pods.filterMap (·.podIp)).filter (· ≠ "")).Perm
      ((others.filterMap (·.podIp)).filter (· ≠ "")) := (reordered.filterMap _).filter _
  exact podAddresses_eq (listed.trans (podAddresses_listed others).symm)
    (pairwise_podAddresses others)

/-- A set of pods does not depend on the order of the pods. -/
theorem podSet_perm (name : String) {pods others : List Pod} (reordered : pods.Perm others) :
    podSet name pods = podSet name others := by
  rw [podSet, podSet, podAddresses_perm reordered]

/-- Whether a state of the cluster announces what another one does, and lists the pods that the
other one lists, in whatever order. -/
structure SteadyCluster.Reorders (cluster other : SteadyCluster) : Prop where
  network : ∀ query, cluster.network query = other.network query
  pods : ∀ query listed, other.pods query = .ok listed →
    ∃ relisted, cluster.pods query = .ok relisted ∧ relisted.Perm listed

namespace Resolvers

variable {resolvers : Resolvers} {allowed others : Answers} {clusterId : String}

/-- A set is filled alike where the same pods may be listed. -/
theorem FilledSet.reorder
    (pods : ∀ query listed, allowed.pods query listed →
      ∃ relisted, others.pods query relisted ∧ relisted.Perm listed)
    {source : SetSource} {set : AddressSet}
    (filled : FilledSet resolvers allowed clusterId source set) :
    FilledSet resolvers others clusterId source set := by
  cases filled with
  | subnets static => exact .subnets source static
  | pods query listed asks read =>
    obtain ⟨relisted, reread, reordered⟩ := pods query listed read
    rw [← podSet_perm _ reordered]
    exact .pods source query relisted asks reread

/-- Rules that compile over a state of the cluster compile to the same over one that announces the
same networks and lists the same pods. -/
theorem compile_reorder {cluster other : SteadyCluster} (reorders : cluster.Reorders other)
    {rules : List Rule} {spec : FirewallSpec}
    (compiles : (resolvers.compile clusterId rules).run.eval other.answer = .ok spec) :
    (resolvers.compile clusterId rules).run.eval cluster.answer = .ok spec := by
  rw [← Program.reaches_eval, compile_reaches_ok] at compiles ⊢
  obtain ⟨filters, sources, sets, compiled, filled⟩ := compiles
  refine .mk filters sources sets (compiled.imp ?_) (filled.imp fun _ _ => .reorder ?_)
  · intro query network read _
    exact read.trans (reorders.network query).symm
  · intro query listed read
    obtain ⟨relisted, reread, reordered⟩ := reorders.pods query listed read.symm
    exact ⟨relisted, reread.symm, reordered⟩

end Resolvers

end PeerFirewall
