import PeerFirewall.Proofs.Resource.Metadata
import PeerFirewall.Reconcile.Desired

/-!
# What laying a configuration over another keeps

The desired configuration of a policy carries two labels and one owner. Laid over a stored one it
takes over the content, the two labels and the owner reference of the policy's identity, and keeps
all other labels, all owners of other identities and all other metadata
(`Firewall.overlay_laidOver`).
-/
namespace PeerFirewall

namespace Labels

/-- An insertion changes the text of its name only. -/
theorem find?_insert (labels : Labels) (name text other : String) :
    (labels.insert name text).find? other =
      if other = name then some text else labels.find? other := by
  simp only [find?, insert]
  induction labels.entries with
  | nil =>
    by_cases same : other = name
    · simp [insertEntry, same]
    · simp [insertEntry, same, Ne.symm same]
  | cons head rest ih =>
    obtain ⟨key, kept⟩ := head
    unfold insertEntry
    split
    · by_cases same : other = name
      · simp [same]
      · simp [same, Ne.symm same]
    · split
      · rename_i same
        subst same
        by_cases same : other = name
        · simp [same]
        · simp [same, Ne.symm same]
      · rename_i different
        by_cases isKey : key = other
        · subst isKey
          simp [Ne.symm different]
        · simpa [isKey] using ih

/-- Inserted entries of different names have their texts, and other names keep theirs. -/
theorem find?_insertAll (labels : Labels) {entries : List (String × String)}
    (ordered : entries.Pairwise fun a b => a.1 < b.1) (name : String) :
    (labels.insertAll entries).find? name =
      ((entries.find? (·.1 = name)).map (·.2)).or (labels.find? name) := by
  induction entries generalizing labels with
  | nil => rfl
  | cons head rest ih =>
    obtain ⟨above, tail⟩ := List.pairwise_cons.1 ordered
    have step : (labels.insertAll (head :: rest)).find? name =
        ((labels.insert head.1 head.2).insertAll rest).find? name := rfl
    rw [step, ih _ tail, find?_insert]
    by_cases same : head.1 = name
    · have none : rest.find? (·.1 = name) = none := by
        refine List.find?_eq_none.2 fun entry isEntry isName => ?_
        have later := above entry isEntry
        rw [same, of_decide_eq_true isName] at later
        exact String.lt_irrefl name later
      simp [none, same]
    · simp [same, Ne.symm same]

/-- An entry that is there already changes nothing. -/
theorem insert_of_find? {labels : Labels} {name text : String}
    (present : labels.find? name = some text) : labels.insert name text = labels := by
  obtain ⟨entries, sorted⟩ := labels
  have same : insertEntry name text entries = entries := by
    induction entries with
    | nil => cases present
    | cons head rest ih =>
      obtain ⟨key, kept⟩ := head
      obtain ⟨above, tail⟩ := List.pairwise_cons.1 sorted
      by_cases isKey : key = name
      · subst isKey
        have isText : kept = text := by simpa [find?] using present
        rw [insertEntry, if_neg (String.lt_irrefl key), if_pos rfl, isText]
      · have later : find? ⟨rest, tail⟩ name = some text := by
          simpa [find?, isKey] using present
        obtain ⟨entry, isFirst, _⟩ := Option.map_eq_some_iff.1 later
        have isName : entry.1 = name := by simpa using List.find?_some isFirst
        have lower : key < name := isName ▸ above entry (List.mem_of_find?_eq_some isFirst)
        rw [insertEntry, if_neg (String.lt_asymm lower), if_neg (Ne.symm isKey), ih tail later]
  simp only [insert, same]

/-- Entries that are there already change nothing. -/
theorem insertAll_of_find? {labels : Labels} {entries : List (String × String)}
    (present : ∀ entry ∈ entries, labels.find? entry.1 = some entry.2) :
    labels.insertAll entries = labels := by
  induction entries with
  | nil => rfl
  | cons head rest ih =>
    obtain ⟨first, others⟩ := List.forall_mem_cons.1 present
    have step : labels.insertAll (head :: rest) =
        (labels.insert head.1 head.2).insertAll rest := rfl
    rw [step, insert_of_find? first, ih others]

end Labels

/-! ### Owners -/

/-- An owner that is set is the first one of its identity. -/
theorem find?_setOwner (owner : OwnerReference) (owners : List OwnerReference) :
    (setOwner owner owners).find? (·.uid = owner.uid) = some owner := by
  induction owners with
  | nil => simp [setOwner]
  | cons head rest ih =>
    unfold setOwner
    split
    · simp
    · rename_i different
      rw [List.find?_cons_of_neg (by simpa using different)]
      exact ih

/-- Setting an owner keeps the owners of other identities. -/
theorem filter_setOwner (owner : OwnerReference) (owners : List OwnerReference) :
    (setOwner owner owners).filter (·.uid ≠ owner.uid) = owners.filter (·.uid ≠ owner.uid) := by
  induction owners with
  | nil => simp [setOwner]
  | cons head rest ih =>
    unfold setOwner
    split
    · rename_i same
      simp [same]
    · rename_i different
      simp only [ne_eq, decide_not, List.filter_cons] at ih ⊢
      rw [ih]

/-- An owner that is the first one of its identity already changes nothing. -/
theorem setOwner_of_find? {owner : OwnerReference} {owners : List OwnerReference}
    (present : owners.find? (·.uid = owner.uid) = some owner) : setOwner owner owners = owners := by
  induction owners with
  | nil => cases present
  | cons head rest ih =>
    by_cases same : head.uid = owner.uid
    · have isOwner : head = owner := by simpa [same] using present
      rw [setOwner, if_pos same, isOwner]
    · have later : rest.find? (·.uid = owner.uid) = some owner := by simpa [same] using present
      rw [setOwner, if_neg same, ih later]

/-- Setting an owner adds no other one. -/
theorem mem_setOwner {owner other : OwnerReference} {owners : List OwnerReference}
    (member : other ∈ setOwner owner owners) : other = owner ∨ other ∈ owners := by
  induction owners with
  | nil => exact .inl (List.mem_singleton.1 member)
  | cons head rest ih =>
    unfold setOwner at member
    split at member
    · exact (List.mem_cons.1 member).imp id (List.mem_cons_of_mem _)
    · rcases List.mem_cons.1 member with rfl | later
      · exact .inr List.mem_cons_self
      · exact (ih later).imp id (List.mem_cons_of_mem _)

/-- Owners that are set are among those that were there and those that are set. -/
theorem mem_foldl_setOwner {owner : OwnerReference} {present added : List OwnerReference}
    (member : owner ∈ added.foldl (fun owners owner => setOwner owner owners) present) :
    owner ∈ added ∨ owner ∈ present := by
  induction added generalizing present with
  | nil => exact .inr member
  | cons head rest ih =>
    rcases ih member with isRest | isPresent
    · exact .inl (List.mem_cons_of_mem _ isRest)
    · rcases mem_setOwner isPresent with rfl | isPresent
      · exact .inl List.mem_cons_self
      · exact .inr isPresent

/-! ### Configurations -/

/-- The names of the labels of every configuration of the fabric. -/
def FabricLabel.fixed : List String := [firewallCategory, firewallSubcategory]

/-- Whether a configuration is another one with a content, the labels of the fabric and an owner
laid over it, as of any version. -/
structure Firewall.LaidOver (owner : OwnerReference) (spec : FirewallSpec)
    (before after : Firewall) : Prop where
  /-- The content is the new one. -/
  spec : after.spec = spec
  /-- The labels of the fabric are set. -/
  category : after.metadata.label? FabricLabel.firewallCategory = some FabricLabel.fabricCategory
  subcategory : after.metadata.label? FabricLabel.firewallSubcategory = some FabricLabel.allNodes
  /-- All other labels are kept. -/
  otherLabels : ∀ name, name ∉ FabricLabel.fixed →
    after.metadata.label? name = before.metadata.label? name
  /-- The owner is the first one of its identity. -/
  owned : after.metadata.owners.find? (·.uid = owner.uid) = some owner
  /-- The owners of other identities are kept, in order. -/
  otherOwners : after.metadata.owners.filter (·.uid ≠ owner.uid) =
    before.metadata.owners.filter (·.uid ≠ owner.uid)
  /-- All other metadata is kept. -/
  rest : after.metadata =
    { before.metadata with
      labels := after.metadata.labels
      ownerReferences := after.metadata.ownerReferences
      resourceVersion := after.metadata.resourceVersion }

/-- Absent labels are like none. -/
theorem Metadata.label?_eq (metadata : Metadata) (name : String) :
    metadata.label? name = (metadata.labels.getD .empty).find? name := by
  unfold label?
  cases metadata.labels <;> rfl

/-- A label is that of the marks, if they have it. -/
theorem Metadata.label?_withMarks (current desired : Metadata) (name : String) :
    (current.withMarks desired).label? name = (desired.label? name).or (current.label? name) := by
  rw [label?_eq desired, label?_eq current]
  exact Labels.find?_insertAll _ (desired.labels.getD .empty).sorted name

namespace Policy

variable {policy : Policy} {clusterId : String} {spec : FirewallSpec} {desired : Firewall}

/-- What a policy that can own a configuration desires. -/
theorem desiredFirewall?_eq_some (built : policy.desiredFirewall? clusterId spec = some desired) :
    ∃ owner, Resource.controllerReference? .policy policy.metadata = some owner ∧
      policy.metadata.uid = some owner.uid ∧
      desired =
        { metadata :=
            { Metadata.empty with
              name := some (ClusterInfo.firewallName clusterId)
              «namespace» := policy.metadata.namespace
              labels := some FabricLabel.firewallLabels
              ownerReferences := some [owner] }
          spec := spec } := by
  unfold desiredFirewall? at built
  obtain ⟨owner, refers, rfl⟩ := Option.map_eq_some_iff.1 built
  refine ⟨owner, refers, ?_, rfl⟩
  unfold Resource.controllerReference? at refers
  split at refers
  · rename_i uid hasUid
    cases refers
    exact hasUid
  · contradiction

/-- What a policy desires has the name of the configuration of the peer. -/
theorem name_of_desired (built : policy.desiredFirewall? clusterId spec = some desired) :
    desired.metadata.name = some (ClusterInfo.firewallName clusterId) := by
  obtain ⟨_, _, _, rfl⟩ := desiredFirewall?_eq_some built
  rfl

/-- What a policy desires has the namespace of the policy. -/
theorem namespace_of_desired (built : policy.desiredFirewall? clusterId spec = some desired) :
    desired.metadata.namespace = policy.metadata.namespace := by
  obtain ⟨_, _, _, rfl⟩ := desiredFirewall?_eq_some built
  rfl

/-- What a policy desires has metadata that holds only what can be read. -/
theorem sound_of_desired (built : policy.desiredFirewall? clusterId spec = some desired) :
    desired.metadata.Sound := by
  obtain ⟨_, _, _, rfl⟩ := desiredFirewall?_eq_some built
  exact ⟨nofun, nofun, nofun⟩

end Policy

namespace Firewall

/-- A merge that changes something is the overlay. -/
theorem merge_eq_some {current desired updated : Firewall}
    (merges : current.merge desired = some updated) : updated = current.overlay desired := by
  unfold merge at merges
  simp only at merges
  split at merges
  · contradiction
  · exact (Option.some.inj merges).symm

/-- The desired configuration of a policy, laid over another one, is laid over it. -/
theorem overlay_laidOver {policy : Policy} {clusterId : String} {spec : FirewallSpec}
    {desired : Firewall} (built : policy.desiredFirewall? clusterId spec = some desired)
    (current : Firewall) :
    ∃ owner, Resource.controllerReference? .policy policy.metadata = some owner ∧
      LaidOver owner spec current (current.overlay desired) := by
  obtain ⟨owner, refers, _, rfl⟩ := Policy.desiredFirewall?_eq_some built
  refine ⟨owner, refers, ?_⟩
  constructor
  case spec => rfl
  case category => exact Metadata.label?_withMarks ..
  case subcategory => exact Metadata.label?_withMarks ..
  case otherLabels =>
    intro name other
    have known : ∀ entry ∈ FabricLabel.firewallLabels.entries, entry.1 ∈ FabricLabel.fixed := by
      decide
    have absent : FabricLabel.firewallLabels.find? name = none := by
      refine Option.map_eq_none_iff.2 (List.find?_eq_none.2 fun entry isEntry isName => other ?_)
      exact of_decide_eq_true isName ▸ known entry isEntry
    refine (Metadata.label?_withMarks ..).trans ?_
    change (FabricLabel.firewallLabels.find? name).or _ = _
    rw [absent, Option.none_or]
  case owned => exact find?_setOwner owner current.metadata.owners
  case otherOwners => exact filter_setOwner owner current.metadata.owners
  case rest => rfl

/-- What is laid over a configuration is as if it had been laid over itself. -/
theorem LaidOver.self {owner : OwnerReference} {spec : FirewallSpec} {before after : Firewall}
    (laid : LaidOver owner spec before after) : LaidOver owner spec after after where
  spec := laid.spec
  category := laid.category
  subcategory := laid.subcategory
  otherLabels _ _ := rfl
  owned := laid.owned
  otherOwners := rfl
  rest := rfl

/-- The desired configuration of a policy, laid over one that has its parts already, changes
nothing. -/
theorem overlay_eq_self {policy : Policy} {clusterId : String} {spec : FirewallSpec}
    {desired current : Firewall} {owner : OwnerReference}
    (built : policy.desiredFirewall? clusterId spec = some desired)
    (refers : Resource.controllerReference? .policy policy.metadata = some owner)
    (laid : LaidOver owner spec current current) : current.overlay desired = current := by
  obtain ⟨other, refersToo, _, rfl⟩ := Policy.desiredFirewall?_eq_some built
  cases refers.symm.trans refersToo
  have labels : some ((current.metadata.labels.getD .empty).insertAll
      FabricLabel.firewallLabels.entries) = current.metadata.labels := by
    have known : ∀ entry ∈ FabricLabel.firewallLabels.entries,
        entry = (FabricLabel.firewallCategory, FabricLabel.fabricCategory) ∨
          entry = (FabricLabel.firewallSubcategory, FabricLabel.allNodes) := by
      decide
    have set : ∀ entry ∈ FabricLabel.firewallLabels.entries,
        (current.metadata.labels.getD .empty).find? entry.1 = some entry.2 := by
      intro entry isEntry
      rw [← Metadata.label?_eq]
      rcases known entry isEntry with rfl | rfl
      · exact laid.category
      · exact laid.subcategory
    rw [Labels.insertAll_of_find? set]
    cases there : current.metadata.labels with
    | some labels => rfl
    | none =>
      have category := laid.category
      rw [Metadata.label?_eq, there] at category
      cases category
  have owners : some (setOwner owner current.metadata.owners) =
      current.metadata.ownerReferences := by
    rw [setOwner_of_find? laid.owned]
    cases there : current.metadata.ownerReferences with
    | some owners => rw [Metadata.owners, there, Option.getD_some]
    | none =>
      have owned := laid.owned
      rw [Metadata.owners, there] at owned
      cases owned
  change (⟨{ current.metadata with
    labels := some ((current.metadata.labels.getD .empty).insertAll
      FabricLabel.firewallLabels.entries)
    ownerReferences := some (setOwner owner current.metadata.owners) }, spec⟩ : Firewall) = current
  rw [labels, owners, ← laid.spec]

/-- A configuration is as it should be just where it has the parts of the desired one already. -/
theorem merge_eq_none_iff {policy : Policy} {clusterId : String} {spec : FirewallSpec}
    {desired current : Firewall} {owner : OwnerReference}
    (built : policy.desiredFirewall? clusterId spec = some desired)
    (refers : Resource.controllerReference? .policy policy.metadata = some owner) :
    current.merge desired = none ↔ LaidOver owner spec current current := by
  unfold merge
  simp only [ite_eq_left_iff, reduceCtorEq, imp_false, not_not]
  constructor
  · intro same
    obtain ⟨other, refersToo, laid⟩ := overlay_laidOver built current
    cases refers.symm.trans refersToo
    rwa [same] at laid
  · exact overlay_eq_self built refers

end Firewall

end PeerFirewall
