import PeerFirewall.Proofs.Api.Version
import PeerFirewall.Resource.Policy

/-!
# What stored objects say of themselves

The API server knows an object by what stands in its metadata: its name, the identity that it was
given, its finalizers, and the identities of its owners. Whoever reads a stored policy or firewall
configuration reads just these (`Policy.metadata_of_decode`, `Firewall.ownerUids_of_decode`), and a
firewall configuration is written with the owners that it has (`Firewall.ownerUids_encode`).
-/
namespace PeerFirewall

namespace Json

/-- The text that stands somewhere; what is no text is as good as the empty one. -/
def textOf : Option Json → String
  | some (.str text) => text
  | _ => ""

/-- The elements of the array that stands somewhere; what is no array has none. -/
def elementsOf : Option Json → List Json
  | some (.arr elements) => elements
  | _ => []

/-- The name of an object. -/
def name? (object : Json) : Option Json := object.metadata.get? "name"

/-- The identity of an object. -/
def uid? (object : Json) : Option Json := object.metadata.get? "uid"

/-- When the deletion of an object was asked for. -/
def deletion? (object : Json) : Option Json := object.metadata.get? "deletionTimestamp"

/-- The finalizers of an object. -/
def finalizers (object : Json) : List Json := elementsOf (object.metadata.get? "finalizers")

/-- The identities of the owners of an object. -/
def ownerUids (object : Json) : List String :=
  (elementsOf (object.metadata.get? "ownerReferences")).map fun owner => textOf (owner.get? "uid")

/-- Setting the version of an object changes nothing else of its metadata. -/
theorem get?_metadata_stamp (object : Json) (version : String) {name : String}
    (other : name ≠ "resourceVersion") :
    (object.stamp version).metadata.get? name = object.metadata.get? name := by
  rw [metadata_stamp, get?_withMember, if_neg other]

/-- Setting the version of an object keeps its name. -/
@[simp] theorem name?_stamp (object : Json) (version : String) :
    (object.stamp version).name? = object.name? :=
  get?_metadata_stamp object version (by decide)

/-- Setting the version of an object keeps its identity. -/
@[simp] theorem uid?_stamp (object : Json) (version : String) :
    (object.stamp version).uid? = object.uid? :=
  get?_metadata_stamp object version (by decide)

/-- Setting the version of an object keeps the time at which its deletion was asked for. -/
@[simp] theorem deletion?_stamp (object : Json) (version : String) :
    (object.stamp version).deletion? = object.deletion? :=
  get?_metadata_stamp object version (by decide)

/-- Setting the version of an object keeps its finalizers. -/
@[simp] theorem finalizers_stamp (object : Json) (version : String) :
    (object.stamp version).finalizers = object.finalizers :=
  congrArg elementsOf (get?_metadata_stamp object version (by decide))

/-- Setting the version of an object keeps its owners. -/
@[simp] theorem ownerUids_stamp (object : Json) (version : String) :
    (object.stamp version).ownerUids = object.ownerUids := by
  rw [ownerUids, get?_metadata_stamp object version (by decide)]
  rfl

end Json

/-! ### What is read -/

/-- A lenient text is read from the text of its name. -/
theorem Record.textOf_of_lenientField {name text : String} {repetition : Repetition}
    {members : List (String × Json)}
    (reads : (lenientField name Decoder.string "").Reads repetition members text) :
    Json.textOf ((Json.obj members).get? name) = text := by
  obtain ⟨found, readsField, rfl⟩ := reads_map.1 reads
  cases found with
  | some text =>
    obtain ⟨value, named, readable⟩ := get?_of_optionalField readsField
    rw [named, Decoder.string_eq_ok readable]
    rfl
  | none =>
    rcases get?_of_absentField readsField with absent | null
    · rw [absent]
      rfl
    · rw [null]
      rfl

/-- What can be said of the elements of a list can be said of what is read from them, one by one. -/
theorem Record.map_of_listField {α β : Type} {decode : Decoder α} {seen : Json → β} {read : α → β}
    (same : ∀ element a, decode element = .ok a → seen element = read a) {name : String}
    {repetition : Repetition} {members : List (String × Json)} {found : Option (List α)}
    (reads : (optionalField name (Decoder.list decode)).Reads repetition members found) :
    (Json.elementsOf ((Json.obj members).get? name)).map seen = (found.getD []).map read := by
  cases found with
  | none =>
    rcases get?_of_absentField reads with absent | null
    · rw [absent]
      rfl
    · rw [null]
      rfl
  | some found =>
    obtain ⟨list, named, readable⟩ := get?_of_optionalField reads
    obtain ⟨elements, rfl, each⟩ := Decoder.list_eq_ok readable
    rw [named]
    have all := each.imp same
    exact List.forall₂_eq_eq_eq ▸ List.forall₂_map_left_iff.2 (List.forall₂_map_right_iff.2 all)

/-- What is read as an owner reference has the identity that stands there. -/
theorem OwnerReference.uid_of_decode {value : Json} {owner : OwnerReference}
    (reads : decode value = .ok owner) : Json.textOf (value.get? "uid") = owner.uid := by
  cases value with
  | obj members =>
    have fields := fields_reads.1 (Record.decodeBuiltIn_obj_eq_ok.1 reads).2
    exact Record.textOf_of_lenientField fields.uid
  | _ => cases reads

namespace Metadata

/-- Metadata is read from an object, field by field. -/
theorem fieldsRead_of_decode {value : Json} {metadata : Metadata}
    (reads : decode value = .ok metadata) :
    ∃ members, value = .obj members ∧ metadata.FieldsRead .replaces members := by
  cases value with
  | obj members =>
    exact ⟨members, rfl, fields_reads.1 (Record.decodeBuiltIn_obj_eq_ok.1 reads).2⟩
  | _ => cases reads

/-- The identity that is read in metadata stands there. -/
theorem uid_of_decode {value : Json} {metadata : Metadata} {uid : String}
    (reads : decode value = .ok metadata) (found : metadata.uid = some uid) :
    value.get? "uid" = some (.str uid) := by
  obtain ⟨members, rfl, fields⟩ := fieldsRead_of_decode reads
  obtain ⟨text, named, readable⟩ := Record.get?_of_optionalField (found ▸ fields.uid)
  rw [named, Decoder.string_eq_ok readable]

/-- The name that is read in metadata stands there. -/
theorem name_of_decode {value : Json} {metadata : Metadata} {name : String}
    (reads : decode value = .ok metadata) (found : metadata.name = some name) :
    value.get? "name" = some (.str name) := by
  obtain ⟨members, rfl, fields⟩ := fieldsRead_of_decode reads
  obtain ⟨text, named, readable⟩ := Record.get?_of_optionalField (found ▸ fields.name)
  rw [named, Decoder.string_eq_ok readable]

/-- Where finalizers are read in metadata, just these stand there. -/
theorem get?_finalizers_of_decode {value : Json} {metadata : Metadata}
    (reads : decode value = .ok metadata) :
    (value.get? "finalizers").getD .null =
      (metadata.finalizers.map (Json.list .str)).getD .null := by
  obtain ⟨members, rfl, fields⟩ := fieldsRead_of_decode reads
  have readsField := fields.finalizers
  cases found : metadata.finalizers with
  | none =>
    rw [found] at readsField
    rcases Record.get?_of_absentField readsField with absent | null
    · rw [absent]
      rfl
    · rw [null]
      rfl
  | some names =>
    rw [found] at readsField
    obtain ⟨list, named, readable⟩ := Record.get?_of_optionalField readsField
    obtain ⟨elements, rfl, each⟩ := Decoder.list_eq_ok readable
    have all := each.imp fun _ _ => Decoder.string_eq_ok
    have same : elements = names.map .str :=
      List.forall₂_eq_eq_eq ▸ List.forall₂_map_right_iff.2 all
    rw [named, same]
    rfl

/-- The finalizers that are read in metadata stand there. -/
theorem finalizers_of_decode {value : Json} {metadata : Metadata}
    (reads : decode value = .ok metadata) :
    Json.elementsOf (value.get? "finalizers") = metadata.finalizerList.map .str := by
  obtain ⟨members, rfl, fields⟩ := fieldsRead_of_decode reads
  rw [← List.map_id (Json.elementsOf _)]
  exact Record.map_of_listField (fun _ _ => Decoder.string_eq_ok) fields.finalizers

/-- The owners that are read in metadata have the identities that stand there. -/
theorem ownerUids_of_decode {value : Json} {metadata : Metadata}
    (reads : decode value = .ok metadata) :
    (Json.elementsOf (value.get? "ownerReferences")).map (fun owner =>
      Json.textOf (owner.get? "uid")) = metadata.owners.map (·.uid) := by
  obtain ⟨members, rfl, fields⟩ := fieldsRead_of_decode reads
  exact Record.map_of_listField (fun _ _ => OwnerReference.uid_of_decode) fields.ownerReferences

end Metadata

/-- Metadata that an object has to have is there. -/
theorem Record.found_of_metadataField {members : List (String × Json)} {repetition : Repetition}
    {metadata : Metadata}
    (reads : (field "metadata" Metadata.decode).Reads repetition members metadata) :
    ∃ value, (Json.obj members).get? "metadata" = some value ∧
      Metadata.decode value = .ok metadata := by
  rcases fieldOr_of_reads reads with found | ⟨_, absent⟩
  · exact found
  · cases absent

/-- Metadata that an object has to have is read from its metadata. -/
theorem Record.metadata_of_field {members : List (String × Json)} {repetition : Repetition}
    {metadata : Metadata}
    (reads : (field "metadata" Metadata.decode).Reads repetition members metadata) :
    Metadata.decode (Json.obj members).metadata = .ok metadata := by
  obtain ⟨value, named, readable⟩ := found_of_metadataField reads
  rw [Json.metadata, named]
  exact readable

namespace Firewall

/-- The metadata of a stored firewall configuration is read from its metadata. -/
theorem metadata_of_decode {object : Json} {version : String} {firewall : Firewall}
    (reads : decode (object.stamp version) = .ok firewall) :
    Metadata.decode (object.stamp version).metadata = .ok firewall.metadata :=
  Record.metadata_of_field (fields_reads.1 (Record.decode_obj_eq_ok.1 reads).2).1

/-- A stored firewall configuration has the owners that are read. -/
theorem ownerUids_of_decode {object : Json} {version : String} {firewall : Firewall}
    (reads : decode (object.stamp version) = .ok firewall) :
    (object.stamp version).ownerUids = firewall.metadata.owners.map (·.uid) :=
  Metadata.ownerUids_of_decode (metadata_of_decode reads)

/-- A firewall configuration is written with the owners that it has. -/
theorem ownerUids_encode (firewall : Firewall) :
    firewall.encode.ownerUids = firewall.metadata.owners.map (·.uid) := by
  have uid (owner : OwnerReference) : Json.textOf (owner.encode.get? "uid") = owner.uid := by
    rw [Json.get?_eq_getLast?]
    simp [OwnerReference.encode, Json.valuesOf_present, Json.textOf]
  rw [Json.ownerUids, metadata_encode, Json.get?_eq_getLast?, Metadata.owners]
  cases owned : firewall.metadata.ownerReferences with
  | none => simp [owned, Metadata.encode, Json.valuesOf_present, Json.elementsOf]
  | some owners =>
    simp [owned, Metadata.encode, Json.valuesOf_present, Json.elementsOf, Json.list, uid]

end Firewall

namespace Policy

/-- An object that a policy is read from has its metadata. -/
theorem metadata_found {members : List (String × Json)} {policy : Policy}
    (reads : decode (.obj members) = .ok policy) :
    ∃ value, (Json.obj members).get? "metadata" = some value ∧
      Metadata.decode value = .ok policy.metadata := by
  have ⟨_, readsFields⟩ := Record.decode_obj_eq_ok.1 reads
  simp only [fields, Record.reads_seq, Record.reads_map] at readsFields
  obtain ⟨_, ⟨_, ⟨_, readsMetadata, rfl⟩, _, _, rfl⟩, _, _, rfl⟩ := readsFields
  exact Record.found_of_metadataField readsMetadata

/-- The metadata of a stored policy is read from its metadata. -/
theorem metadata_of_decode {object : Json} {version : String} {policy : Policy}
    (reads : decode (object.stamp version) = .ok policy) :
    Metadata.decode (object.stamp version).metadata = .ok policy.metadata := by
  obtain ⟨value, named, readable⟩ := metadata_found reads
  rw [Json.metadata, show (object.stamp version).get? "metadata" = some value from named]
  exact readable

end Policy

end PeerFirewall
