import PeerFirewall.Proofs.Api.Version
import PeerFirewall.Proofs.Resource.Policy
import PeerFirewall.Resource.Network

/-!
# Objects are read back

Policies, firewall configurations, networks and marks of offloaded namespaces are read back from
what they are written as, provided that their metadata holds only what can be read
(`Metadata.Sound`). What is read holds nothing else, so writing it and reading it again changes
nothing (`Resource.RoundTrips`), though it may be written in another way than it stood: a group that
stood under its short name is written under its canonical one.
-/
namespace PeerFirewall

open Record (field fieldWithDefault optionalField)

/-! ### Groups -/

namespace Group

/-- A group is read back. -/
theorem readsBack (group : Group) : ReadsBack encode decode group where
  solid := rfl
  read := by cases group <;> rfl

/-- A text names a group just where it is its canonical name or a short one. -/
theorem decode_str_eq_ok {text : String} {group : Group} :
    decode (.str text) = .ok group ↔ text = group.name ∨ (text, group) ∈ aliases := by
  constructor
  · intro reads
    simp only [decode, Decoder.choice, Decoder.choose] at reads
    split at reads
    · rename_i choice found
      cases reads
      have listed := List.mem_of_find?_eq_some found
      obtain rfl : choice.1 = text := by simpa using List.find?_some found
      have named : ∀ choice ∈ choices, choice.1 = choice.2.name ∨ choice ∈ aliases := by decide
      exact named choice listed
    · cases reads
  · rintro (rfl | short)
    · exact (readsBack group).read
    · have listed : ∀ entry ∈ aliases, decode (.str entry.1) = .ok entry.2 := by
        rintro _ (_ | ⟨_, _ | ⟨_, ⟨⟩⟩⟩) <;> rfl
      exact listed _ short

/-- No canonical name is a short one. -/
theorem name_notMem_aliases (group : Group) : group.name ∉ aliases.map (·.1) := by
  cases group <;> decide

end Group

/-! ### Policies -/

/-- A party is read back. -/
theorem Party.readsBack (party : Party) : ReadsBack encode decode party where
  solid := rfl
  read := by
    refine Record.decode_present rfl ?_
    have group : (optionalField "group" Group.decode).Reads .refused party.encode.members
        party.group :=
      Record.optionalField_reads (by simp [encode, Json.valuesOf_present])
        fun _ _ => Group.readsBack _
    have space : (optionalField "namespace" Decoder.string).Reads .refused party.encode.members
        party.namespace :=
      Record.optionalField_reads (by simp [encode, Json.valuesOf_present])
        fun _ _ => readsBack_str _
    exact (group.map Party.mk).seq space

/-- A rule is read back. -/
theorem Rule.readsBack (rule : Rule) : ReadsBack encode decode rule where
  solid := rfl
  read := by
    refine Record.decode_present rfl ?_
    have action : (fieldWithDefault "action" Choice.decode RuleAction.allow).Reads .refused
        rule.encode.members rule.action :=
      Record.fieldWithDefault_reads (by simp [encode, Json.valuesOf_present]) (readsBack_choice _)
    have source : (optionalField "source" Party.decode).Reads .refused rule.encode.members
        rule.source :=
      Record.optionalField_reads (by simp [encode, Json.valuesOf_present])
        fun _ _ => Party.readsBack _
    have destination : (optionalField "destination" Party.decode).Reads .refused
        rule.encode.members rule.destination :=
      Record.optionalField_reads (by simp [encode, Json.valuesOf_present])
        fun _ _ => Party.readsBack _
    exact ((action.map Rule.mk).seq source).seq destination

/-- The content of a policy is read back. -/
theorem PolicySpec.readsBack (spec : PolicySpec) : ReadsBack encode decode spec where
  solid := rfl
  read := by
    refine Record.decode_present rfl ?_
    have rules : (fieldWithDefault "rules" (Decoder.list Rule.decode) []).Reads .refused
        spec.encode.members spec.rules :=
      Record.fieldWithDefault_reads (by simp [encode, Json.valuesOf_present])
        (readsBack_list fun _ _ => Rule.readsBack _)
    exact rules.map PolicySpec.mk

namespace Policy

/-- A policy is read back if its metadata holds only what can be read. -/
theorem readsBack {policy : Policy} (sound : policy.metadata.Sound) :
    ReadsBack encode decode policy where
  solid := rfl
  read := by
    refine Resource.decode_typed rfl (fields_reads.2 ⟨?_, ?_, ?_⟩)
    · exact Record.field_reads (by simp [Resource.typeMembers, Json.valuesOf_present])
        (Metadata.readsBack sound)
    · exact Record.field_reads (by simp [Resource.typeMembers, Json.valuesOf_present])
        (PolicySpec.readsBack _)
    · exact Record.optionalField_reads (by simp [Resource.typeMembers, Json.valuesOf_present])
        fun _ _ => PolicyStatus.readsBack _

/-- What is read as a policy has metadata that holds only what can be read. -/
theorem sound_of_decode {value : Json} {policy : Policy} (reads : decode value = .ok policy) :
    policy.metadata.Sound := by
  have within : fields.Within fun policy => policy.metadata.Sound := by
    refine .seq ?_ (Record.Within.trivial _)
    refine .seq ?_ (Record.Within.trivial _)
    refine .map (Record.field_within fun _ _ => Metadata.sound_of_decode) ?_
    intro metadata sound spec _ status _
    exact sound
  exact within.decode reads

end Policy

/-! ### Networks -/

/-- An announcement is read back, whatever messages call it. -/
theorem AnnouncedCidr.readsBack (name : String) (announced : AnnouncedCidr) :
    ReadsBack encode (fields.decode name) announced where
  solid := rfl
  read := by
    refine Record.decode_present rfl ?_
    have cidr : (optionalField "cidr" Decoder.string).Reads .refused announced.encode.members
        announced.cidr :=
      Record.optionalField_reads (by simp [encode, Json.valuesOf_present])
        fun _ _ => readsBack_str _
    exact cidr.map AnnouncedCidr.mk

namespace Network

/-- A network is read back if its metadata holds only what can be read. -/
theorem readsBack {network : Network} (sound : network.metadata.Sound) :
    ReadsBack encode decode network where
  solid := rfl
  read := by
    refine Resource.decode_typed rfl ?_
    have metadata : (field "metadata" Metadata.decode).Reads .refused network.encode.members
        network.metadata :=
      Record.field_reads (by simp [encode, Resource.typeMembers, Json.valuesOf_present])
        (Metadata.readsBack sound)
    have spec : (field "spec" (AnnouncedCidr.fields.decode "NetworkSpec")).Reads .refused
        network.encode.members network.spec :=
      Record.field_reads (by simp [encode, Resource.typeMembers, Json.valuesOf_present])
        (AnnouncedCidr.readsBack _ _)
    have status : (optionalField "status" (AnnouncedCidr.fields.decode "NetworkStatus")).Reads
        .refused network.encode.members network.status :=
      Record.optionalField_reads
        (by simp [encode, Resource.typeMembers, Json.valuesOf_present])
        fun _ _ => AnnouncedCidr.readsBack _ _
    exact ((metadata.map Network.mk).seq spec).seq status

/-- What is read as a network has metadata that holds only what can be read. -/
theorem sound_of_decode {value : Json} {network : Network} (reads : decode value = .ok network) :
    network.metadata.Sound := by
  have within : fields.Within fun network => network.metadata.Sound := by
    refine .seq ?_ (Record.Within.trivial _)
    refine .seq ?_ (Record.Within.trivial _)
    refine .map (Record.field_within fun _ _ => Metadata.sound_of_decode) ?_
    intro metadata sound spec _ status _
    exact sound
  exact within.decode reads

end Network

/-! ### Marks of offloaded namespaces -/

/-- The content of a mark of an offloaded namespace is read back. -/
theorem OffloadingSpec.readsBack (spec : OffloadingSpec) : ReadsBack encode decode spec where
  solid := rfl
  read := by
    refine Record.decode_present rfl ?_
    have mapping : (optionalField "namespaceMappingStrategy" Decoder.string).Reads .refused
        spec.encode.members spec.namespaceMappingStrategy :=
      Record.optionalField_reads (by simp [encode, Json.valuesOf_present])
        fun _ _ => readsBack_str _
    have pods : (optionalField "podOffloadingStrategy" Decoder.string).Reads .refused
        spec.encode.members spec.podOffloadingStrategy :=
      Record.optionalField_reads (by simp [encode, Json.valuesOf_present])
        fun _ _ => readsBack_str _
    exact (mapping.map OffloadingSpec.mk).seq pods

namespace NamespaceOffloading

/-- A mark of an offloaded namespace is read back if its metadata holds only what can be read. -/
theorem readsBack {offloading : NamespaceOffloading} (sound : offloading.metadata.Sound) :
    ReadsBack encode decode offloading where
  solid := rfl
  read := by
    refine Resource.decode_typed rfl ?_
    have metadata : (field "metadata" Metadata.decode).Reads .refused offloading.encode.members
        offloading.metadata :=
      Record.field_reads (by simp [encode, Resource.typeMembers, Json.valuesOf_present])
        (Metadata.readsBack sound)
    have spec : (field "spec" OffloadingSpec.decode).Reads .refused offloading.encode.members
        offloading.spec :=
      Record.field_reads (by simp [encode, Resource.typeMembers, Json.valuesOf_present])
        (OffloadingSpec.readsBack _)
    exact (metadata.map NamespaceOffloading.mk).seq spec

/-- What is read as a mark of an offloaded namespace has metadata that holds only what can be
read. -/
theorem sound_of_decode {value : Json} {offloading : NamespaceOffloading}
    (reads : decode value = .ok offloading) : offloading.metadata.Sound := by
  have within : fields.Within fun offloading => offloading.metadata.Sound := by
    refine .seq ?_ (Record.Within.trivial _)
    refine .map (Record.field_within fun _ _ => Metadata.sound_of_decode) ?_
    intro metadata sound spec _
    exact sound
  exact within.decode reads

end NamespaceOffloading

/-! ### Every kind -/

namespace Resource

/-- Whether the objects of a type are read back. -/
structure RoundTrips (α : Type) [Resource α] : Prop where
  /-- An object is read back just where its metadata holds only what can be read: points in time
  that a text to the second can name, and fields of writers in the form in which they are kept. -/
  readsBack : ∀ a : α, decode (encode a) = .ok a ↔ (metadata a).Sound
  /-- What is read is the same after it is written and read once more. -/
  settled : ∀ (value : Json) (a : α), decode value = .ok a → decode (encode a) = .ok a

/-- The objects of a type are read back if those are whose metadata holds only what can be read, and
nothing else is read. -/
theorem RoundTrips.of_sound {α : Type} [Resource α]
    (back : ∀ a : α, (metadata a).Sound → decode (encode a) = .ok a)
    (sound : ∀ (value : Json) (a : α), decode value = .ok a → (metadata a).Sound) :
    RoundTrips α where
  readsBack a := ⟨sound (encode a) a, back a⟩
  settled value a reads := back a (sound value a reads)

/-- Policies, firewall configurations, networks and marks of offloaded namespaces are read back. A
group is read by its canonical name or a short one; it is written by the canonical one, and that is
no short one. -/
theorem kinds_roundTrip :
    RoundTrips Policy ∧ RoundTrips Firewall ∧ RoundTrips Network ∧
      RoundTrips NamespaceOffloading ∧
    (∀ text group, Group.decode (.str text) = .ok group ↔
      text = group.name ∨ (text, group) ∈ Group.aliases) ∧
    ∀ (party : Party) (group : Group), party.group = some group →
      party.encode.get? "group" = some (.str group.name) ∧
        group.name ∉ Group.aliases.map (·.1) := by
  refine ⟨?_, ?_, ?_, ?_, fun _ _ => Group.decode_str_eq_ok, fun party group stands => ?_⟩
  · exact .of_sound (fun _ sound => (Policy.readsBack sound).read)
      fun _ _ => Policy.sound_of_decode
  · exact .of_sound (fun _ sound => (Firewall.readsBack sound).read)
      fun _ _ => Firewall.sound_of_decode
  · exact .of_sound (fun _ sound => (Network.readsBack sound).read)
      fun _ _ => Network.sound_of_decode
  · exact .of_sound (fun _ sound => (NamespaceOffloading.readsBack sound).read)
      fun _ _ => NamespaceOffloading.sound_of_decode
  · refine ⟨?_, group.name_notMem_aliases⟩
    rw [Json.get?_eq_getLast?]
    simp [Party.encode, Json.valuesOf_present, stands, Group.encode]

/-- Absent and empty labels, finalizers and conditions are kept apart. -/
theorem kinds_roundTrip_sparse :
    let policy : Policy := {
      metadata := { Metadata.empty with
        labels := some .empty, finalizers := some [], deletionTimestamp := some ⟨1700000000, 0⟩ }
      spec := ⟨[⟨.deny, some ⟨some .virtualClusterLocal, none⟩, none⟩]⟩
      status := some ⟨none, []⟩ }
    policy.metadata.Sound ∧ Policy.decode policy.encode = .ok policy ∧
    policy.encode.metadata = .record [
      ("deletionTimestamp", some (.str "2023-11-14T22:13:20Z")),
      ("finalizers", some (.arr [])), ("labels", some (.obj []))] := by
  intro policy
  have sound : policy.metadata.Sound := by
    refine ⟨nofun, ?_, nofun⟩
    rintro _ ⟨⟩
    exact ⟨by decide, .inl rfl⟩
  exact ⟨sound, (kinds_roundTrip.1.readsBack policy).2 sound, by decide +kernel⟩

end Resource

end PeerFirewall
