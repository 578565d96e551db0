import PeerFirewall.Proofs.Reconcile.Overlay

/-!
# A merge changes as little as it can

Of a stored configuration a policy owns the content, the two labels of the fabric and the first
owner reference of its identity. A merge comes to nothing just where these parts are as they should
be. Otherwise it sets them, leaves all else as it is and in its place, and there is nothing left to
merge (`Firewall.merge_minimal`).
-/
namespace PeerFirewall

/-! ### Owners -/

/-- Whether a list of owners is another one with an owner set. -/
inductive OwnerIsSet (owner : OwnerReference) :
    List OwnerReference → List OwnerReference → Prop where
  /-- The owner stands in place of the first one of its identity. -/
  | replaced {front rest : List OwnerReference} {former : OwnerReference}
      (others : ∀ other ∈ front, other.uid ≠ owner.uid) (isFirst : former.uid = owner.uid) :
      OwnerIsSet owner (front ++ former :: rest) (front ++ owner :: rest)
  /-- None was of its identity, and the owner stands behind them all. -/
  | appended {owners : List OwnerReference}
      (others : ∀ other ∈ owners, other.uid ≠ owner.uid) :
      OwnerIsSet owner owners (owners ++ [owner])

/-- An owner of another identity in front makes no difference. -/
theorem OwnerIsSet.cons {owner head : OwnerReference} {before after : List OwnerReference}
    (different : head.uid ≠ owner.uid) (isSet : OwnerIsSet owner before after) :
    OwnerIsSet owner (head :: before) (head :: after) := by
  cases isSet with
  | @replaced front rest former others isFirst =>
    have others : ∀ other ∈ head :: front, other.uid ≠ owner.uid :=
      List.forall_mem_cons.2 ⟨different, others⟩
    exact .replaced others isFirst
  | appended others =>
    exact .appended (List.forall_mem_cons.2 ⟨different, others⟩)

/-- Setting an owner does just that. -/
theorem ownerIsSet_setOwner (owner : OwnerReference) (owners : List OwnerReference) :
    OwnerIsSet owner owners (setOwner owner owners) := by
  induction owners with
  | nil => exact .appended (List.forall_mem_nil _)
  | cons head rest ih =>
    unfold setOwner
    by_cases same : head.uid = owner.uid
    · rw [if_pos same]
      have others : ∀ other ∈ ([] : List OwnerReference), other.uid ≠ owner.uid :=
        List.forall_mem_nil _
      exact .replaced others same
    · rw [if_neg same]
      exact ih.cons same

namespace Firewall

variable {policy : Policy} {clusterId : String} {spec : FirewallSpec} {owner : OwnerReference}
  {desired current : Firewall}

/-! ### The parts of a policy -/

/-- Whether the parts of a configuration that a policy owns are as they should be. -/
structure HasParts (owner : OwnerReference) (spec : FirewallSpec) (current : Firewall) : Prop where
  spec : current.spec = spec
  category : current.metadata.label? FabricLabel.firewallCategory = some FabricLabel.fabricCategory
  subcategory : current.metadata.label? FabricLabel.firewallSubcategory = some FabricLabel.allNodes
  owned : current.metadata.owners.find? (·.uid = owner.uid) = some owner

/-- Whether a configuration is another one in which the parts that a policy owns are set, and
nothing else is changed. -/
structure PartsSet (owner : OwnerReference) (spec : FirewallSpec) (before after : Firewall) :
    Prop where
  spec : after.spec = spec
  labels : ∀ name, after.metadata.label? name =
    if name = FabricLabel.firewallCategory then some FabricLabel.fabricCategory
    else if name = FabricLabel.firewallSubcategory then some FabricLabel.allNodes
    else before.metadata.label? name
  owners : OwnerIsSet owner before.metadata.owners after.metadata.owners
  rest : after.metadata =
    { before.metadata with
      labels := after.metadata.labels
      ownerReferences := after.metadata.ownerReferences }

/-- A configuration has the parts of a policy just where they may be laid over it without any
change. -/
theorem hasParts_iff : HasParts owner spec current ↔ LaidOver owner spec current current := by
  constructor
  · intro has
    exact ⟨has.spec, has.category, has.subcategory, fun _ _ => rfl, has.owned, rfl, rfl⟩
  · intro laid
    exact ⟨laid.spec, laid.category, laid.subcategory, laid.owned⟩

/-- The labels of a configuration with the parts of a policy laid over it. -/
theorem LaidOver.label?_eq {before after : Firewall} (laid : LaidOver owner spec before after)
    (name : String) : after.metadata.label? name =
      if name = FabricLabel.firewallCategory then some FabricLabel.fabricCategory
      else if name = FabricLabel.firewallSubcategory then some FabricLabel.allNodes
      else before.metadata.label? name := by
  by_cases isCategory : name = FabricLabel.firewallCategory
  · rw [if_pos isCategory, isCategory, laid.category]
  · rw [if_neg isCategory]
    by_cases isSubcategory : name = FabricLabel.firewallSubcategory
    · rw [if_pos isSubcategory, isSubcategory, laid.subcategory]
    · rw [if_neg isSubcategory]
      refine laid.otherLabels name ?_
      simp [FabricLabel.fixed, isCategory, isSubcategory]

/-- Laying the desired configuration over another one sets the parts of the policy. -/
theorem overlay_partsSet (built : policy.desiredFirewall? clusterId spec = some desired)
    (refers : Resource.controllerReference? .policy policy.metadata = some owner)
    (current : Firewall) : PartsSet owner spec current (current.overlay desired) := by
  obtain ⟨other, refersToo, laid⟩ := overlay_laidOver built current
  cases refers.symm.trans refersToo
  obtain ⟨other, refersToo, _, rfl⟩ := Policy.desiredFirewall?_eq_some built
  cases refers.symm.trans refersToo
  exact {
    spec := laid.spec
    labels := laid.label?_eq
    owners := ownerIsSet_setOwner owner current.metadata.owners
    rest := rfl }

/-- What a merge comes to for a configuration that a policy desires: nothing, where the stored one
has the parts of the policy already, and otherwise the stored one with just these parts set, which
is then left as it is. -/
theorem merge_minimal (policy : Policy) (clusterId : String) (spec : FirewallSpec)
    (desired current : Firewall)
    (built : policy.desiredFirewall? clusterId spec = some desired) :
    ∃ owner, desired.metadata.ownerReferences = some [owner] ∧
      policy.metadata.uid = some owner.uid ∧
      (current.merge desired = none ↔ HasParts owner desired.spec current) ∧
      ∀ updated, current.merge desired = some updated →
        PartsSet owner desired.spec current updated ∧ updated.merge desired = none := by
  obtain ⟨owner, refers, isUid, isDesired⟩ := Policy.desiredFirewall?_eq_some built
  have isSpec : desired.spec = spec := by rw [isDesired]
  refine ⟨owner, by rw [isDesired], isUid, ?_, fun updated merges => ?_⟩
  · rw [isSpec, hasParts_iff]
    exact merge_eq_none_iff built refers
  · obtain rfl := merge_eq_some merges
    rw [isSpec]
    refine ⟨overlay_partsSet built refers current, (merge_eq_none_iff built refers).2 ?_⟩
    obtain ⟨other, refersToo, laid⟩ := overlay_laidOver built current
    cases refers.symm.trans refersToo
    exact laid.self

/-! ### A configuration that others have marked -/

/-- A reference to the policy of that name that says whether it controls what it owns. -/
def reference (controls : Option Bool) : OwnerReference :=
  ⟨"connectivity.liqo.io/v1", "PeeringConnectivity", "rules", "u1", controls, none⟩

/-- A reference to an object of somebody else. -/
def foreignReference : OwnerReference := ⟨"v1", "ConfigMap", "notes", "u9", none, none⟩

/-- A configuration that others have labelled and tied to an object of theirs. It names the policy
twice as its owner, and one label of the fabric is wrong and the other one missing. -/
def tangled : Firewall where
  metadata := { Metadata.empty with
    name := some "c-security-fabric"
    resourceVersion := some "7"
    labels := some (.ofList [(FabricLabel.firewallCategory, "gateway"), ("team", "net")])
    ownerReferences := some [foreignReference, reference none, reference (some false)] }
  spec := ⟨⟨"cluster-security", .ipv4, [], []⟩⟩

/-- A merge sets the first reference to the policy and leaves nothing to merge. -/
theorem merge_minimal_tangled :
    let policy : Policy :=
      ⟨{ Metadata.empty with name := some "rules", uid := some "u1" }, ⟨[]⟩, none⟩
    ∃ desired updated, policy.desiredFirewall? "c" tangled.spec = some desired ∧
      tangled.merge desired = some updated ∧
      updated.metadata.owners = [foreignReference, reference (some true), reference (some false)] ∧
      updated.metadata.label? "team" = some "net" ∧ updated.merge desired = none := by
  intro policy
  obtain ⟨owner, _, _, _, merged⟩ := merge_minimal policy "c" tangled.spec _ tangled rfl
  obtain ⟨isSet, settled⟩ := merged _ rfl
  refine ⟨_, _, rfl, rfl, rfl, ?_, settled⟩
  rw [isSet.labels]
  decide

end Firewall

end PeerFirewall
