import Mathlib.Data.List.Basic
import PeerFirewall.Proofs.Reconcile.Overlay

/-!
# Who controls a configuration

Of the owners of an object one at most may be its controller. The desired configuration of a policy
names the policy as the controller, and laid over a stored one it takes the place of the first owner
of the policy's identity and of no other. So the configuration that is written has one controller
just where the stored one had none, or had the one whose place is taken
(`Firewall.merge_controllers`); a stored configuration with a controller of another identity is
written with two (`Firewall.merge_two_controllers`).
-/
namespace PeerFirewall

/-- Whether an owner is a controller. -/
def OwnerReference.isController (owner : OwnerReference) : Bool := owner.controller = some true

/-- The owners that are controllers. -/
def Metadata.controllers (metadata : Metadata) : List OwnerReference :=
  metadata.owners.filter (·.isController)

/-- Setting an owner changes how many owners there are of a sort by the owner itself and the first
one of its identity. -/
theorem countP_setOwner (sort : OwnerReference → Bool) (owner : OwnerReference)
    (owners : List OwnerReference) :
    (setOwner owner owners).countP sort =
      (owners.eraseP (·.uid = owner.uid)).countP sort + [owner].countP sort := by
  induction owners with
  | nil => simp [setOwner]
  | cons head rest ih =>
    unfold setOwner
    by_cases same : head.uid = owner.uid
    · rw [if_pos same, List.eraseP_cons_of_pos (by simpa using same), List.countP_cons,
        List.countP_singleton]
    · rw [if_neg same, List.eraseP_cons_of_neg (by simpa using same), List.countP_cons,
        List.countP_cons, ih]
      omega

/-- Where there is one owner of a sort at most, none is left without the first one of an identity
just where that is the one. -/
theorem countP_eraseP_eq_zero_iff {sort : OwnerReference → Bool} {uid : String}
    {owners : List OwnerReference} (atMostOne : owners.countP sort ≤ 1) :
    (owners.eraseP (·.uid = uid)).countP sort = 0 ↔
      ∀ owner ∈ owners, sort owner → owners.find? (·.uid = uid) = some owner := by
  induction owners with
  | nil => simp
  | cons head rest ih =>
    rw [List.countP_cons] at atMostOne
    by_cases same : head.uid = uid
    · rw [List.eraseP_cons_of_pos (by simpa using same),
        List.find?_cons_of_pos (by simpa using same), List.countP_eq_zero]
      constructor
      · intro none owner member isSort
        rcases List.mem_cons.1 member with rfl | later
        · rfl
        · exact absurd isSort (none owner later)
      · intro only owner later isSort
        obtain rfl : head = owner :=
          Option.some.inj (only owner (List.mem_cons_of_mem _ later) isSort)
        have twice : 0 < rest.countP sort := List.countP_pos_iff.2 ⟨head, later, isSort⟩
        simp only [isSort, if_true] at atMostOne
        omega
    · rw [List.eraseP_cons_of_neg (by simpa using same), List.countP_cons, Nat.add_eq_zero_iff,
        ih (by omega), List.find?_cons_of_neg (by simpa using same), List.forall_mem_cons, and_comm]
      refine and_congr_left fun _ => ?_
      constructor
      · intro notHead isSort
        simp [isSort] at notHead
      · intro only
        refine if_neg fun isSort => same ?_
        simpa using List.find?_some (only isSort)

namespace Firewall

/-- A configuration with the desired one of a policy laid over it has the policy as a controller,
and the controllers that it had without the first owner of the identity of the policy. -/
theorem length_controllers_overlay {policy : Policy} {clusterId uid : String} {spec : FirewallSpec}
    {desired : Firewall} (built : policy.desiredFirewall? clusterId spec = some desired)
    (isUid : policy.metadata.uid = some uid) (current : Firewall) :
    (current.overlay desired).metadata.controllers.length =
      (current.metadata.owners.eraseP (·.uid = uid)).countP (·.isController) + 1 := by
  obtain ⟨owner, refers, isUidToo, rfl⟩ := Policy.desiredFirewall?_eq_some built
  cases isUid.symm.trans isUidToo
  have isController : owner.isController := by
    unfold Resource.controllerReference? at refers
    split at refers
    · cases refers
      rfl
    · cases refers
  have sets := countP_setOwner (·.isController) owner current.metadata.owners
  rw [List.countP_singleton, if_pos isController] at sets
  rw [← sets, Metadata.controllers, List.countP_eq_length_filter]
  rfl

/-- Where the stored configuration has one controller at most, the one that is written in its place
has one just where the stored controller, if there is one, is the first owner of the identity of the
policy. Otherwise it has two: the policy, and the stored one, for the owners of other identities
stay as they are. -/
theorem merge_controllers (policy : Policy) (clusterId uid : String) (spec : FirewallSpec)
    (desired current updated : Firewall)
    (built : policy.desiredFirewall? clusterId spec = some desired)
    (isUid : policy.metadata.uid = some uid)
    (atMostOne : current.metadata.controllers.length ≤ 1)
    (merges : current.merge desired = some updated) :
    (updated.metadata.controllers.length ≤ 1 ↔
      ∀ owner ∈ current.metadata.controllers,
        current.metadata.owners.find? (·.uid = uid) = some owner) ∧
    (updated.metadata.controllers.length = 1 ∨ updated.metadata.controllers.length = 2) ∧
    updated.metadata.owners.filter (·.uid ≠ uid) =
      current.metadata.owners.filter (·.uid ≠ uid) := by
  obtain rfl := merge_eq_some merges
  rw [Metadata.controllers, ← List.countP_eq_length_filter] at atMostOne
  have count := length_controllers_overlay built isUid current
  have left : (current.metadata.owners.eraseP (·.uid = uid)).countP (·.isController) ≤ 1 :=
    Nat.le_trans (List.eraseP_sublist.countP_le) atMostOne
  refine ⟨?_, by omega, ?_⟩
  · have none : (current.metadata.owners.eraseP (·.uid = uid)).countP (·.isController) = 0 ↔ _ :=
      countP_eraseP_eq_zero_iff atMostOne
    simp only [Metadata.controllers, List.mem_filter, and_imp]
    rw [← none]
    change (current.overlay desired).metadata.controllers.length ≤ 1 ↔ _
    omega
  · obtain ⟨owner, refers, laid⟩ := overlay_laidOver built current
    obtain ⟨other, refersToo, isOther, _⟩ := Policy.desiredFirewall?_eq_some built
    cases refers.symm.trans refersToo
    cases isUid.symm.trans isOther
    exact laid.otherOwners

/-- A policy that was made again under its name, with a new identity. -/
def remadePolicy : Policy :=
  ⟨{ Metadata.empty with name := some "rules", uid := some "u2" }, ⟨[]⟩, none⟩

/-- The reference to the policy of that name with an identity. -/
def ruledBy (uid : String) : OwnerReference :=
  ⟨"connectivity.liqo.io/v1", "PeeringConnectivity", "rules", uid, some true, none⟩

/-- The configuration that was written for the policy of that name when it had an identity, and that
somebody else has tied to an object of theirs. -/
def writtenFor (uid : String) : Firewall where
  metadata := { Metadata.empty with
    ownerReferences := some [⟨"v1", "ConfigMap", "notes", "u9", none, none⟩, ruledBy uid] }
  spec := ⟨⟨"cluster-security", .ipv4, [], []⟩⟩

/-- A configuration that was written for the same identity is written with one controller. -/
theorem merge_controllers_same :
    ∃ desired updated, remadePolicy.desiredFirewall? "c" (writtenFor "u2").spec = some desired ∧
      (writtenFor "u2").merge desired = some updated ∧
      updated.metadata.controllers.length ≤ 1 := by
  refine ⟨_, _, rfl, rfl, ?_⟩
  refine (merge_controllers remadePolicy "c" "u2" (writtenFor "u2").spec _ (writtenFor "u2") _ rfl
    rfl (by decide) rfl).1.2 ?_
  decide

/-- It is not so that a configuration with one controller at most is always written with one at
most: one that was written for the policy before it was made again is written with two. -/
theorem merge_two_controllers :
    ¬ ∀ (policy : Policy) (clusterId : String) (spec : FirewallSpec)
      (desired current updated : Firewall),
      policy.desiredFirewall? clusterId spec = some desired →
      current.metadata.controllers.length ≤ 1 → current.merge desired = some updated →
      updated.metadata.controllers.length ≤ 1 := by
  intro always
  have one := always remadePolicy "c" (writtenFor "u1").spec _ (writtenFor "u1") _ rfl (by decide)
    rfl
  revert one
  decide

end Firewall

end PeerFirewall
