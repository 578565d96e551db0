import PeerFirewall.Proofs.Resource.Firewall

/-!
# Versions of stored objects

The API server writes into every object that it stores which version of the object this is
(`Json.stamp`). Whoever reads a stored object reads that version (`Metadata.version_of_decode`), and
an object that is stored as it was written is read back with the version as the only difference
(`Firewall.decode_stamp`).
-/
namespace PeerFirewall

namespace Json

/-- The metadata of an object, empty if it has none. -/
def metadata (object : Json) : Json := (object.get? "metadata").getD (.obj [])

/-- The version of an object. -/
def version? (object : Json) : Option Json := object.metadata.get? "resourceVersion"

/-- An object with its version set. -/
def stamp (object : Json) (version : String) : Json :=
  object.withMember "metadata" (object.metadata.withMember "resourceVersion" (.str version))

/-- The metadata of an object whose version is set. -/
theorem metadata_stamp (object : Json) (version : String) :
    (object.stamp version).metadata =
      object.metadata.withMember "resourceVersion" (.str version) := by
  rw [metadata, stamp, get?_withMember, if_pos rfl, Option.getD_some]

/-- The version that is set is the version. -/
@[simp] theorem version?_stamp (object : Json) (version : String) :
    (object.stamp version).version? = some (.str version) := by
  rw [version?, metadata_stamp, get?_withMember, if_pos rfl]

end Json

namespace Metadata

/-- Metadata as of a version. -/
def atVersion (metadata : Metadata) (version : String) : Metadata :=
  { metadata with resourceVersion := some version }

/-- The version that is set in metadata is read. -/
theorem version_of_decode {object : Json} {version : String} {metadata : Metadata}
    (reads : decode (object.withMember "resourceVersion" (.str version)) = .ok metadata) :
    metadata.resourceVersion = some version :=
  Record.optionalField_of_withMember
    (fields_reads.1 (Record.decodeBuiltIn_obj_eq_ok.1 reads).2).resourceVersion

/-- Metadata whose version is set where it is written is read as of that version. -/
theorem decode_withVersion {metadata : Metadata} (sound : metadata.Sound) (version : String) :
    decode (metadata.encode.withMember "resourceVersion" (.str version)) =
      .ok (metadata.atVersion version) := by
  have sound' : (metadata.atVersion version).Sound := ⟨sound.1, sound.2, sound.3⟩
  refine Record.decodeBuiltIn_obj_eq_ok.2
    ⟨fun member isMember => .inl ?_, fields_reads.2 (fieldsRead_of_values sound' fun name => ?_)⟩
  · rcases Json.name_of_mem_withMember isMember with kept | rfl
    · exact Json.name_mem_of_mem_present kept
    · exact (show "resourceVersion" ∈ fields.names by decide)
  · change Json.valuesOf name (metadata.encode.withMember _ _).members = _
    rw [Json.valuesOf_withMember]
    by_cases isVersion : name = "resourceVersion"
    · simp [isVersion, encode, atVersion, Json.valuesOf_present]
    · simp [Ne.symm isVersion, isVersion, encode, atVersion, Json.valuesOf_present]

end Metadata

namespace Firewall

/-- A firewall configuration as of a version. -/
def atVersion (firewall : Firewall) (version : String) : Firewall :=
  ⟨firewall.metadata.atVersion version, firewall.spec⟩

/-- The version that is set in a firewall configuration is read. -/
theorem version_of_decode {object : Json} {version : String} {firewall : Firewall}
    (reads : decode (object.stamp version) = .ok firewall) :
    firewall.metadata.resourceVersion = some version := by
  have ⟨readsMetadata, _⟩ := fields_reads.1 (Record.decode_obj_eq_ok.1 reads).2
  exact Metadata.version_of_decode (Record.fieldOr_of_withMember readsMetadata)

/-- The metadata of a firewall configuration where it is written. -/
theorem metadata_encode (firewall : Firewall) :
    firewall.encode.metadata = firewall.metadata.encode := by
  rw [Json.metadata, Json.get?_eq_getLast?]
  simp [encode, Resource.typeMembers, Json.valuesOf_present]

/-- The version of a firewall configuration where it is written. -/
theorem version?_encode (firewall : Firewall) :
    firewall.encode.version? = firewall.metadata.resourceVersion.map .str := by
  rw [Json.version?, metadata_encode, Json.get?_eq_getLast?]
  cases version : firewall.metadata.resourceVersion <;>
    simp [Metadata.encode, Json.valuesOf_present, version]

/-- The name of a firewall configuration where it is written. -/
theorem name_encode (firewall : Firewall) :
    firewall.encode.metadata.get? "name" = firewall.metadata.name.map .str := by
  rw [metadata_encode, Json.get?_eq_getLast?]
  cases name : firewall.metadata.name <;> simp [Metadata.encode, Json.valuesOf_present, name]

/-- The namespace of a firewall configuration where it is written. -/
theorem namespace_encode (firewall : Firewall) :
    firewall.encode.metadata.get? "namespace" = firewall.metadata.namespace.map .str := by
  rw [metadata_encode, Json.get?_eq_getLast?]
  cases home : firewall.metadata.namespace <;> simp [Metadata.encode, Json.valuesOf_present, home]

/-- What a firewall configuration is written as has members that are no fields, which can be
skipped. -/
theorem other_members {firewall : Firewall} {member : String × Json}
    (isMember : member ∈ firewall.encode.members) :
    member.1 ∈ fields.names ∨ Decoder.skipMember member.2 = .ok () :=
  Resource.typed_pass rfl isMember

/-- A firewall configuration is read back if its metadata holds only what can be read. -/
theorem readsBack {firewall : Firewall} (sound : firewall.metadata.Sound) :
    ReadsBack encode decode firewall where
  solid := rfl
  read := by
    refine Resource.decode_typed rfl (fields_reads.2 ⟨?_, ?_⟩)
    · exact Record.field_reads (by simp [Resource.typeMembers, Json.valuesOf_present])
        (Metadata.readsBack sound)
    · exact Record.field_reads (by simp [Resource.typeMembers, Json.valuesOf_present])
        (FirewallSpec.readsBack _)

/-- A firewall configuration whose version is set where it is written is read as of that
version. -/
theorem decode_stamp {firewall : Firewall} (sound : firewall.metadata.Sound) (version : String) :
    decode (firewall.encode.stamp version) = .ok (firewall.atVersion version) := by
  have values (name : String) : Json.valuesOf name (firewall.encode.stamp version).members =
      if name = "metadata" then
        [firewall.metadata.encode.withMember "resourceVersion" (.str version)]
      else Json.valuesOf name firewall.encode.members := by
    rw [Json.stamp, Json.valuesOf_withMember, metadata_encode]
  refine Record.decode_obj_eq_ok.2 ⟨fun member isMember => ?_, fields_reads.2 ⟨?_, ?_⟩⟩
  · rcases Json.name_of_mem_withMember isMember with kept | rfl
    · exact other_members kept
    · exact .inl (show "metadata" ∈ fields.names by decide)
  · exact (Record.fieldOr_of_single ((values _).trans (if_pos rfl))).2
      (Metadata.decode_withVersion sound version)
  · have one : Json.valuesOf "spec" (firewall.encode.stamp version).members =
        [firewall.spec.encode] := by
      rw [values]
      simp [encode, Resource.typeMembers, Json.valuesOf_present]
    exact Record.field_reads one (FirewallSpec.readsBack _)

end Firewall

end PeerFirewall
