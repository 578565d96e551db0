import PeerFirewall.Proofs.Json.ReadBack
import PeerFirewall.Proofs.Json.Sorted
import PeerFirewall.Proofs.Time.Instant
import PeerFirewall.Resource.Metadata

/-!
# Metadata is read back

Metadata is read back from what it is written as, provided that the points in time in it can be
named and that the fields of writers are kept in the form in which they are read
(`Metadata.readsBack`). What is read is of this form (`Metadata.sound_of_decode`), so reading
changes nothing the second time.
-/
namespace PeerFirewall

open Time (Instant)
open Record (lenientField optionalField)

namespace Labels

/-! ### Labels -/

/-- An entry whose name comes after all others is put behind them. -/
theorem insertEntry_last {name text : String} {entries : List (String × String)}
    (last : ∀ entry ∈ entries, entry.1 < name) :
    insertEntry name text entries = entries ++ [(name, text)] := by
  induction entries with
  | nil => rfl
  | cons head rest ih =>
    obtain ⟨other, kept⟩ := head
    have ⟨first, later⟩ := List.forall_mem_cons.1 last
    have notLower : ¬ name < other := String.lt_asymm first
    have different : name ≠ other := fun same => String.lt_irrefl other (same ▸ first)
    rw [insertEntry, if_neg notLower, if_neg different, ih later]
    rfl

/-- Entries whose names come after all others, in order, are put behind them. -/
theorem insertAll_entries {labels : Labels} {entries : List (String × String)}
    (ordered : (labels.entries ++ entries).Pairwise fun a b => a.1 < b.1) :
    (labels.insertAll entries).entries = labels.entries ++ entries := by
  induction entries generalizing labels with
  | nil => exact (List.append_nil _).symm
  | cons head rest ih =>
    have last : ∀ entry ∈ labels.entries, entry.1 < head.1 := fun entry isEntry =>
      (List.pairwise_append.1 ordered).2.2 entry isEntry _ List.mem_cons_self
    have inserted : (labels.insert head.1 head.2).entries = labels.entries ++ [head] :=
      insertEntry_last last
    have split : labels.entries ++ head :: rest = (labels.entries ++ [head]) ++ rest := by
      rw [List.append_assoc, List.singleton_append]
    rw [split, ← inserted]
    apply ih
    rw [inserted, ← split]
    exact ordered

/-- The labels of entries in order have these entries. -/
theorem ofList_entries (labels : Labels) : ofList labels.entries = labels := by
  have same : (ofList labels.entries).entries = labels.entries := insertAll_entries labels.sorted
  cases labels
  simp only [ofList] at same ⊢
  generalize empty.insertAll _ = other at *
  cases other
  simp only at same
  subst same
  rfl

/-- The members of labels are read back as entries. -/
theorem decodeMembers_map (entries : List (String × String)) :
    decodeMembers (entries.map fun entry => (entry.1, .str entry.2)) = .ok entries := by
  induction entries with
  | nil => rfl
  | cons head rest ih => simp only [List.map_cons, decodeMembers, Decoder.string, ih]

/-- Labels are read back. -/
theorem readsBack (labels : Labels) : ReadsBack encode decode labels where
  solid := rfl
  read := by
    rw [encode, decode, decodeMembers_map]
    exact congrArg Except.ok labels.ofList_entries

end Labels

/-! ### Points in time -/

/-- A point in time that can be named is read back. -/
theorem Decoder.readsBack_wholeInstant {t : Instant} (nameable : t.Nameable) :
    ReadsBack (fun t : Instant => .str t.text) wholeInstant t where
  solid := rfl
  read := by
    rw [wholeInstant, instant, Instant.parse_text nameable]
    exact congrArg Except.ok (Instant.wholeSecond_of_nameable nameable)

/-- What is read to the second can be named. -/
theorem Decoder.nameable_of_wholeInstant {value : Json} {t : Instant}
    (reads : wholeInstant value = .ok t) : t.Nameable := by
  obtain ⟨precise, readsPrecise, rfl⟩ := Decoder.map_eq_ok.1 reads
  unfold instant at readsPrecise
  split at readsPrecise
  · split at readsPrecise
    · cases readsPrecise
      exact Instant.nameable_of_parse ‹_›
    · cases readsPrecise
  · unfold mismatch at readsPrecise
    split at readsPrecise <;> cases readsPrecise

namespace OwnerReference

/-! ### Owners -/

/-- Whether each field of an owner reference is read from members. -/
structure FieldsRead (repetition : Repetition) (members : List (String × Json))
    (owner : OwnerReference) : Prop where
  apiVersion : (lenientField "apiVersion" Decoder.string "").Reads repetition members
      owner.apiVersion
  blockOwnerDeletion : (optionalField "blockOwnerDeletion" Decoder.bool).Reads repetition members
      owner.blockOwnerDeletion
  controller : (optionalField "controller" Decoder.bool).Reads repetition members owner.controller
  kind : (lenientField "kind" Decoder.string "").Reads repetition members owner.kind
  name : (lenientField "name" Decoder.string "").Reads repetition members owner.name
  uid : (lenientField "uid" Decoder.string "").Reads repetition members owner.uid

/-- An owner reference is read if each of its fields is. -/
theorem fields_reads {repetition : Repetition} {members : List (String × Json)}
    {owner : OwnerReference} :
    fields.Reads repetition members owner ↔ owner.FieldsRead repetition members := by
  simp only [fields, Record.reads_seq, Record.reads_map]
  constructor
  · intro read
    obtain ⟨_, ⟨_, ⟨_, ⟨_, ⟨_, ⟨_, apiVersion, rfl⟩, _, blockOwnerDeletion, rfl⟩, _, controller,
      rfl⟩, _, kind, rfl⟩, _, name, rfl⟩, _, uid, rfl⟩ := read
    exact ⟨apiVersion, blockOwnerDeletion, controller, kind, name, uid⟩
  · intro each
    obtain ⟨apiVersion, blockOwnerDeletion, controller, kind, name, uid⟩ := each
    exact ⟨_, ⟨_, ⟨_, ⟨_, ⟨_, ⟨_, apiVersion, rfl⟩, _, blockOwnerDeletion, rfl⟩, _, controller,
      rfl⟩, _, kind, rfl⟩, _, name, rfl⟩, _, uid, rfl⟩

/-- An owner reference is read back. -/
theorem readsBack (owner : OwnerReference) : ReadsBack encode decode owner where
  solid := rfl
  read := by
    refine Record.decodeBuiltIn_present rfl (fields_reads.2 ?_)
    constructor
    case apiVersion =>
      exact Record.lenientField_reads (by simp [Json.valuesOf_present]) (readsBack_str _)
    case blockOwnerDeletion =>
      exact Record.optionalField_reads (by simp [Json.valuesOf_present])
        fun _ _ => readsBack_bool _
    case controller =>
      exact Record.optionalField_reads (by simp [Json.valuesOf_present])
        fun _ _ => readsBack_bool _
    case kind =>
      exact Record.lenientField_reads (by simp [Json.valuesOf_present]) (readsBack_str _)
    case name =>
      exact Record.lenientField_reads (by simp [Json.valuesOf_present]) (readsBack_str _)
    case uid =>
      exact Record.lenientField_reads (by simp [Json.valuesOf_present]) (readsBack_str _)

end OwnerReference

namespace ManagedFields

/-! ### Writers -/

/-- Reads the fields of a writer in the form in which they are kept. -/
def decodeKept : Decoder Json := fun value => (Decoder.keep fieldsDepth value).map Json.sorted

/-- Whether fields of a writer are in the form in which they are kept. -/
structure Kept (kept : Json) : Prop where
  solid : kept.isSolid
  sound : kept.readFault? fieldsDepth = none
  sorted : kept.sorted = kept

/-- Fields of a writer that are in the form in which they are kept are read back. -/
theorem Kept.readsBack {kept : Json} (isKept : Kept kept) : ReadsBack id decodeKept kept where
  solid := isKept.solid
  read := by
    simp only [decodeKept, Decoder.keep, id, isKept.sound, Except.map, isKept.sorted]

/-- Fields of a writer that are read are in the form in which they are kept. -/
theorem kept_of_decodeKept {value kept : Json} (present : value ≠ .null)
    (reads : decodeKept value = .ok kept) : Kept kept := by
  obtain ⟨original, keeps, rfl⟩ := Decoder.map_eq_ok.1 reads
  unfold Decoder.keep at keeps
  split at keeps
  · cases keeps
  · rename_i sound
    cases keeps
    constructor
    · cases value with
      | null => contradiction
      | broken fault => simp [Json.readFault?] at sound
      | _ => simp only [Json.sorted, Json.isSolid]
    · exact Json.readFault?_sorted value sound
    · exact Json.sorted_sorted value

/-- Whether the entry of a writer holds only what can be read. -/
structure Sound (managed : ManagedFields) : Prop where
  kept : ∀ kept, managed.fieldsV1 = some kept → Kept kept
  time : ∀ t, managed.time = some t → t.Nameable

/-- Whether each field of one writer's entry is read from members. -/
structure FieldsRead (repetition : Repetition) (members : List (String × Json))
    (managed : ManagedFields) : Prop where
  apiVersion : (optionalField "apiVersion" Decoder.string).Reads repetition members
      managed.apiVersion
  fieldsType : (optionalField "fieldsType" Decoder.string).Reads repetition members
      managed.fieldsType
  fieldsV1 : (optionalField "fieldsV1" decodeKept).Reads repetition members managed.fieldsV1
  manager : (optionalField "manager" Decoder.string).Reads repetition members managed.manager
  operation : (optionalField "operation" Decoder.string).Reads repetition members managed.operation
  subresource : (optionalField "subresource" Decoder.string).Reads repetition members
      managed.subresource
  time : (optionalField "time" Decoder.wholeInstant).Reads repetition members managed.time

/-- One writer's entry is read if each of its fields is. -/
theorem fields_reads {repetition : Repetition} {members : List (String × Json)}
    {managed : ManagedFields} :
    fields.Reads repetition members managed ↔ managed.FieldsRead repetition members := by
  simp only [fields, Record.reads_seq, Record.reads_map]
  constructor
  · intro read
    obtain ⟨_, ⟨_, ⟨_, ⟨_, ⟨_, ⟨_, ⟨_, apiVersion, rfl⟩, _, fieldsType, rfl⟩, _, fieldsV1, rfl⟩,
      _, manager, rfl⟩, _, operation, rfl⟩, _, subresource, rfl⟩, _, time, rfl⟩ := read
    exact ⟨apiVersion, fieldsType, fieldsV1, manager, operation, subresource, time⟩
  · intro each
    obtain ⟨apiVersion, fieldsType, fieldsV1, manager, operation, subresource, time⟩ := each
    exact ⟨_, ⟨_, ⟨_, ⟨_, ⟨_, ⟨_, ⟨_, apiVersion, rfl⟩, _, fieldsType, rfl⟩, _, fieldsV1, rfl⟩, _,
      manager, rfl⟩, _, operation, rfl⟩, _, subresource, rfl⟩, _, time, rfl⟩

/-- The entry of a writer is read back if it holds only what can be read. -/
theorem readsBack {managed : ManagedFields} (sound : managed.Sound) :
    ReadsBack encode decode managed where
  solid := rfl
  read := by
    refine Record.decodeBuiltIn_present rfl (fields_reads.2 ?_)
    constructor
    case apiVersion =>
      exact Record.optionalField_reads (by simp [Json.valuesOf_present]) fun _ _ => readsBack_str _
    case fieldsType =>
      exact Record.optionalField_reads (by simp [Json.valuesOf_present]) fun _ _ => readsBack_str _
    case fieldsV1 =>
      exact Record.optionalField_reads (by simp [Json.valuesOf_present])
        fun kept same => (sound.kept kept same).readsBack
    case manager =>
      exact Record.optionalField_reads (by simp [Json.valuesOf_present]) fun _ _ => readsBack_str _
    case operation =>
      exact Record.optionalField_reads (by simp [Json.valuesOf_present]) fun _ _ => readsBack_str _
    case subresource =>
      exact Record.optionalField_reads (by simp [Json.valuesOf_present]) fun _ _ => readsBack_str _
    case time =>
      exact Record.optionalField_reads (by simp [Json.valuesOf_present])
        fun t same => Decoder.readsBack_wholeInstant (sound.time t same)

/-- What is read as the entry of a writer holds only what can be read. -/
theorem sound_of_decode {value : Json} {managed : ManagedFields}
    (reads : decode value = .ok managed) : managed.Sound := by
  have within : fields.Within Sound := by
    refine .seq ?_ (Record.optionalField_within fun _ _ _ => Decoder.nameable_of_wholeInstant)
    refine .seq ?_ (Record.Within.trivial _)
    refine .seq ?_ (Record.Within.trivial _)
    refine .seq ?_ (Record.Within.trivial _)
    refine .seq ?_ (Record.optionalField_within fun _ _ present => kept_of_decodeKept present)
    refine .seq ?_ (Record.Within.trivial _)
    refine .map (Record.Within.trivial _) ?_
    intro apiVersion _ fieldsType _ kept isKept manager _ operation _ subresource _ time nameable
    exact ⟨isKept, nameable⟩
  exact within.decodeBuiltIn reads

end ManagedFields

namespace Metadata

/-! ### Metadata -/

/-- Whether metadata holds only what can be read. -/
structure Sound (metadata : Metadata) : Prop where
  creation : ∀ t, metadata.creationTimestamp = some t → t.Nameable
  deletion : ∀ t, metadata.deletionTimestamp = some t → t.Nameable
  managed : ∀ entries, metadata.managedFields = some entries → ∀ entry ∈ entries, entry.Sound

/-- Whether each field of metadata is read from members. -/
structure FieldsRead (repetition : Repetition) (members : List (String × Json))
    (metadata : Metadata) : Prop where
  annotations : (optionalField "annotations" Labels.decode).Reads repetition members
      metadata.annotations
  creationTimestamp :
    (optionalField "creationTimestamp" Decoder.wholeInstant).Reads repetition members
      metadata.creationTimestamp
  deletionGracePeriodSeconds :
    (optionalField "deletionGracePeriodSeconds" Decoder.int64).Reads repetition members
      metadata.deletionGracePeriodSeconds
  deletionTimestamp :
    (optionalField "deletionTimestamp" Decoder.wholeInstant).Reads repetition members
      metadata.deletionTimestamp
  finalizers : (optionalField "finalizers" (Decoder.list Decoder.string)).Reads repetition members
      metadata.finalizers
  generateName : (optionalField "generateName" Decoder.string).Reads repetition members
      metadata.generateName
  generation : (optionalField "generation" Decoder.int64).Reads repetition members
      metadata.generation
  labels : (optionalField "labels" Labels.decode).Reads repetition members metadata.labels
  managedFields :
    (optionalField "managedFields" (Decoder.list ManagedFields.decode)).Reads repetition members
      metadata.managedFields
  name : (optionalField "name" Decoder.string).Reads repetition members metadata.name
  «namespace» : (optionalField "namespace" Decoder.string).Reads repetition members
      metadata.namespace
  ownerReferences :
    (optionalField "ownerReferences" (Decoder.list OwnerReference.decode)).Reads repetition members
      metadata.ownerReferences
  resourceVersion : (optionalField "resourceVersion" Decoder.string).Reads repetition members
      metadata.resourceVersion
  selfLink : (optionalField "selfLink" Decoder.string).Reads repetition members metadata.selfLink
  uid : (optionalField "uid" Decoder.string).Reads repetition members metadata.uid

/-- Metadata is read if each of its fields is. -/
theorem fields_reads {repetition : Repetition} {members : List (String × Json)}
    {metadata : Metadata} :
    fields.Reads repetition members metadata ↔ metadata.FieldsRead repetition members := by
  simp only [fields, Record.reads_seq, Record.reads_map]
  constructor
  · intro read
    obtain ⟨_, ⟨_, ⟨_, ⟨_, ⟨_, ⟨_, ⟨_, ⟨_, ⟨_, ⟨_, ⟨_, ⟨_, ⟨_, ⟨_, ⟨_, annotations, rfl⟩, _,
      creationTimestamp, rfl⟩, _, deletionGracePeriodSeconds, rfl⟩, _, deletionTimestamp, rfl⟩, _,
      finalizers, rfl⟩, _, generateName, rfl⟩, _, generation, rfl⟩, _, labels, rfl⟩, _,
      managedFields, rfl⟩, _, name, rfl⟩, _, space, rfl⟩, _, ownerReferences, rfl⟩, _,
      resourceVersion, rfl⟩, _, selfLink, rfl⟩, _, uid, rfl⟩ := read
    exact ⟨annotations, creationTimestamp, deletionGracePeriodSeconds, deletionTimestamp,
      finalizers, generateName, generation, labels, managedFields, name, space, ownerReferences,
      resourceVersion, selfLink, uid⟩
  · intro each
    obtain ⟨annotations, creationTimestamp, deletionGracePeriodSeconds, deletionTimestamp,
      finalizers, generateName, generation, labels, managedFields, name, space, ownerReferences,
      resourceVersion, selfLink, uid⟩ := each
    exact ⟨_, ⟨_, ⟨_, ⟨_, ⟨_, ⟨_, ⟨_, ⟨_, ⟨_, ⟨_, ⟨_, ⟨_, ⟨_, ⟨_, ⟨_, annotations, rfl⟩, _,
      creationTimestamp, rfl⟩, _, deletionGracePeriodSeconds, rfl⟩, _, deletionTimestamp, rfl⟩, _,
      finalizers, rfl⟩, _, generateName, rfl⟩, _, generation, rfl⟩, _, labels, rfl⟩, _,
      managedFields, rfl⟩, _, name, rfl⟩, _, space, rfl⟩, _, ownerReferences, rfl⟩, _,
      resourceVersion, rfl⟩, _, selfLink, rfl⟩, _, uid, rfl⟩

/-- Metadata that holds only what can be read is read from members whose names have the values that
they have where it is written. -/
theorem fieldsRead_of_values {metadata : Metadata} (sound : metadata.Sound)
    {repetition : Repetition} {members : List (String × Json)}
    (values : ∀ name, Json.valuesOf name members = Json.valuesOf name metadata.encode.members) :
    metadata.FieldsRead repetition members := by
  simp only [encode, Json.members_record, Json.valuesOf_present] at values
  constructor
  case annotations =>
    exact Record.optionalField_reads ((values _).trans (by simp))
      fun _ _ => Labels.readsBack _
  case creationTimestamp =>
    exact Record.optionalField_reads ((values _).trans (by simp; rfl))
      fun t same => Decoder.readsBack_wholeInstant (sound.creation t same)
  case deletionGracePeriodSeconds =>
    exact Record.optionalField_reads ((values _).trans (by simp))
      fun _ _ => readsBack_int64 _
  case deletionTimestamp =>
    exact Record.optionalField_reads ((values _).trans (by simp; rfl))
      fun t same => Decoder.readsBack_wholeInstant (sound.deletion t same)
  case finalizers =>
    exact Record.optionalField_reads ((values _).trans (by simp))
      fun _ _ => readsBack_list fun _ _ => readsBack_str _
  case generateName =>
    exact Record.optionalField_reads ((values _).trans (by simp)) fun _ _ => readsBack_str _
  case generation =>
    exact Record.optionalField_reads ((values _).trans (by simp))
      fun _ _ => readsBack_int64 _
  case labels =>
    exact Record.optionalField_reads ((values _).trans (by simp))
      fun _ _ => Labels.readsBack _
  case managedFields =>
    exact Record.optionalField_reads ((values _).trans (by simp))
      fun entries same => readsBack_list fun entry member =>
        ManagedFields.readsBack (sound.managed entries same entry member)
  case name =>
    exact Record.optionalField_reads ((values _).trans (by simp)) fun _ _ => readsBack_str _
  case «namespace» =>
    exact Record.optionalField_reads ((values _).trans (by simp)) fun _ _ => readsBack_str _
  case ownerReferences =>
    exact Record.optionalField_reads ((values _).trans (by simp))
      fun _ _ => readsBack_list fun _ _ => OwnerReference.readsBack _
  case resourceVersion =>
    exact Record.optionalField_reads ((values _).trans (by simp)) fun _ _ => readsBack_str _
  case selfLink =>
    exact Record.optionalField_reads ((values _).trans (by simp)) fun _ _ => readsBack_str _
  case uid =>
    exact Record.optionalField_reads ((values _).trans (by simp)) fun _ _ => readsBack_str _

/-- Metadata is read back if it holds only what can be read. -/
theorem readsBack {metadata : Metadata} (sound : metadata.Sound) :
    ReadsBack encode decode metadata where
  solid := rfl
  read := Record.decodeBuiltIn_present rfl
    (fields_reads.2 (fieldsRead_of_values sound fun _ => rfl))

/-- What is read as metadata holds only what can be read. -/
theorem sound_of_decode {value : Json} {metadata : Metadata} (reads : decode value = .ok metadata) :
    metadata.Sound := by
  have nameable {name : String} : (optionalField name Decoder.wholeInstant).Within
      fun found => ∀ t, found = some t → t.Nameable :=
    Record.optionalField_within fun _ _ _ => Decoder.nameable_of_wholeInstant
  have sound : (optionalField "managedFields" (Decoder.list ManagedFields.decode)).Within
      fun found => ∀ entries, found = some entries → ∀ entry ∈ entries, entry.Sound :=
    Record.optionalField_within fun _ _ _ =>
      Record.list_within fun _ _ => ManagedFields.sound_of_decode
  have within : fields.Within Sound := by
    refine .seq ?_ (Record.Within.trivial _)
    refine .seq ?_ (Record.Within.trivial _)
    refine .seq ?_ (Record.Within.trivial _)
    refine .seq ?_ (Record.Within.trivial _)
    refine .seq ?_ (Record.Within.trivial _)
    refine .seq ?_ (Record.Within.trivial _)
    refine .seq ?_ sound
    refine .seq ?_ (Record.Within.trivial _)
    refine .seq ?_ (Record.Within.trivial _)
    refine .seq ?_ (Record.Within.trivial _)
    refine .seq ?_ (Record.Within.trivial _)
    refine .seq ?_ nameable
    refine .seq ?_ (Record.Within.trivial _)
    refine .seq ?_ nameable
    refine .map (Record.Within.trivial _) ?_
    intro annotations _ creation isCreation grace _ deletion isDeletion finalizers _ stem _
      generation _ labels _ managed isManaged
    intros
    exact ⟨isCreation, isDeletion, isManaged⟩
  exact within.decodeBuiltIn reads

end Metadata

end PeerFirewall
