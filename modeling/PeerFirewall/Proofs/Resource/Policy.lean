import PeerFirewall.Proofs.Api.MergePatch
import PeerFirewall.Proofs.Resource.Metadata
import PeerFirewall.Resource.Policy

/-!
# The status of a policy is read back

The status of a policy is read back from what it is written as (`PolicyStatus.readsBack`), also
where that is laid over the status of before as a merge patch, which keeps the generation of before
if it names none (`PolicyStatus.decode_mergePatch`). A policy is read from an object just where its
metadata, its content and its status are (`Policy.fields_reads`), so a policy whose status is
written so is read with that status and is otherwise as it was (`Policy.decode_patched`).
-/
namespace PeerFirewall

open Record (field fieldWithDefault optionalField)

/-- A condition is read back. -/
theorem Condition.readsBack (condition : Condition) : ReadsBack encode decode condition where
  solid := rfl
  read := by
    refine Record.decode_present rfl ?_
    have values : ∀ name, Json.valuesOf name condition.encode.members = _ := fun name =>
      Json.valuesOf_present name _
    have type : (field "type" Decoder.string).Reads .refused condition.encode.members
        condition.type :=
      Record.field_reads ((values _).trans (by simp)) (readsBack_str _)
    have status : (field "status" Choice.decode).Reads .refused condition.encode.members
        condition.status :=
      Record.field_reads ((values _).trans (by simp)) (readsBack_choice _)
    have generation : (optionalField "observedGeneration" Decoder.int64).Reads .refused
        condition.encode.members condition.observedGeneration :=
      Record.optionalField_reads ((values _).trans (by simp)) fun _ _ => readsBack_int64 _
    have since : (optionalField "lastTransitionTime" Decoder.string).Reads .refused
        condition.encode.members condition.lastTransitionTime :=
      Record.optionalField_reads ((values _).trans (by simp)) fun _ _ => readsBack_str _
    have reason : (optionalField "reason" Decoder.string).Reads .refused condition.encode.members
        condition.reason :=
      Record.optionalField_reads ((values _).trans (by simp)) fun _ _ => readsBack_str _
    have message : (optionalField "message" Decoder.string).Reads .refused
        condition.encode.members condition.message :=
      Record.optionalField_reads ((values _).trans (by simp)) fun _ _ => readsBack_str _
    exact (((((type.map Condition.mk).seq status).seq generation).seq since).seq reason).seq message

/-- The status of a policy is read back. -/
theorem PolicyStatus.readsBack (status : PolicyStatus) : ReadsBack encode decode status where
  solid := rfl
  read := by
    refine Record.decode_present rfl ?_
    have generation : (optionalField "observedGeneration" Decoder.int64).Reads .refused
        status.encode.members status.observedGeneration :=
      Record.optionalField_reads (by simp [encode, Json.valuesOf_present])
        fun _ _ => readsBack_int64 _
    have conditions : (fieldWithDefault "conditions" (Decoder.list Condition.decode) []).Reads
        .refused status.encode.members status.conditions :=
      Record.fieldWithDefault_reads (by simp [encode, Json.valuesOf_present])
        (readsBack_list fun _ _ => Condition.readsBack _)
    exact (generation.map PolicyStatus.mk).seq conditions

/-- A status as it is laid over another one, which may say which generation it is about where the
first one does not. -/
def PolicyStatus.laidOver (status : PolicyStatus) (generation : Option Int64) : PolicyStatus :=
  { status with observedGeneration := status.observedGeneration.or generation }

/-- A status that says which generation it is about is laid over another one as it is. -/
theorem PolicyStatus.laidOver_of_isSome {status : PolicyStatus}
    (isAbout : status.observedGeneration.isSome) (generation : Option Int64) :
    status.laidOver generation = status := by
  rw [laidOver, Option.or_of_isSome isAbout]

/-- Where the status of a policy is laid over another status as a merge patch, it is read back: its
fields take the place of those of before. -/
theorem PolicyStatus.decode_mergePatch (status : PolicyStatus) {before : Json}
    {generation : Option Int64}
    (pass : ∀ member ∈ before.members,
      member.1 ∈ fields.names ∨ Decoder.skipMember member.2 = .ok ())
    (earlier : (optionalField "observedGeneration" Decoder.int64).Reads .refused before.members
      generation) :
    (status.encode.mergePatch before).isSolid ∧
      decode (status.encode.mergePatch before) = .ok (status.laidOver generation) := by
  let changes : List (String × Json) := Json.present [
    ("observedGeneration", status.observedGeneration.map fun n => .int n.toInt),
    ("conditions", some (Json.list Condition.encode status.conditions))]
  have isPatch : status.encode = .obj changes := rfl
  have named : ∀ member ∈ changes, member.1 ∈ fields.names := fun member isMember =>
    Json.name_mem_of_mem_present isMember
  have distinct : (changes.map (·.1)).Nodup := by
    cases isAbout : status.observedGeneration <;> simp [changes, Json.present, isAbout]
  have conditions : Json.valuesOf "conditions"
      (Json.mergeMembers changes (.obj before.members)).members =
        [Json.list Condition.encode status.conditions] := by
    have member : ("conditions", Json.list Condition.encode status.conditions) ∈ changes := by
      simp [changes, Json.present]
    rw [Json.valuesOf_mergeMembers_of_mem distinct member (by simp [Json.list]),
      Json.mergePatch_of_plain]
    intro _ same
    cases same
  have others : ∀ member ∈ (Json.mergeMembers changes (.obj before.members)).members,
      member.1 ∈ fields.names ∨ Decoder.skipMember member.2 = .ok () := by
    intro member isMember
    rcases Json.mem_members_mergeMembers isMember with kept | isNamed
    · exact pass member kept
    · obtain ⟨change, isChange, same⟩ := List.mem_map.1 isNamed
      exact .inl (same ▸ named change isChange)
  have readsGeneration : (optionalField "observedGeneration" Decoder.int64).Reads .refused
      (Json.mergeMembers changes (.obj before.members)).members
      (status.laidOver generation).observedGeneration := by
    cases isAbout : status.observedGeneration with
    | none =>
      have unnamed : "observedGeneration" ∉ changes.map (·.1) := by
        simp [changes, Json.present, isAbout]
      rw [PolicyStatus.laidOver, isAbout, Option.none_or]
      exact Record.fieldOr_congr (Json.valuesOf_mergeMembers_of_not_mem unnamed) earlier
    | some said =>
      have member : ("observedGeneration", .int said.toInt) ∈ changes := by
        simp [changes, Json.present, isAbout]
      rw [PolicyStatus.laidOver, isAbout, Option.some_or]
      refine Record.optionalField_reads ?_ fun _ _ => readsBack_int64 _
      rw [Json.valuesOf_mergeMembers_of_mem distinct member (by simp), Json.mergePatch_of_plain]
      · rfl
      · intro _ same
        cases same
  have readsConditions : (fieldWithDefault "conditions" (Decoder.list Condition.decode) []).Reads
      .refused (Json.mergeMembers changes (.obj before.members)).members status.conditions :=
    Record.fieldWithDefault_reads conditions (readsBack_list fun _ _ => Condition.readsBack _)
  rw [isPatch, Json.mergePatch, ← Json.obj_members_mergeMembers]
  exact ⟨rfl, Record.decode_obj_eq_ok.2
    ⟨others, (readsGeneration.map PolicyStatus.mk).seq readsConditions⟩⟩

/-- A status that is read says which generation it is about, if anything does. -/
theorem PolicyStatus.generation_of_decode {value : Json} {status : PolicyStatus}
    (reads : decode value = .ok status) :
    ∃ generation, (optionalField "observedGeneration" Decoder.int64).Reads .refused value.members
      generation := by
  cases value with
  | obj members =>
    obtain ⟨_, begins, _⟩ := Record.reads_seq.1 (Record.decode_obj_eq_ok.1 reads).2
    obtain ⟨generation, isRead, _⟩ := Record.reads_map.1 begins
    exact ⟨generation, isRead⟩
  | _ => exact ⟨none, Record.fieldOr_of_absent rfl⟩

namespace Policy

/-- A policy is read if its metadata, its content and its status are. -/
theorem fields_reads {repetition : Repetition} {members : List (String × Json)} {policy : Policy} :
    fields.Reads repetition members policy ↔
      (field "metadata" Metadata.decode).Reads repetition members policy.metadata ∧
      (field "spec" PolicySpec.decode).Reads repetition members policy.spec ∧
      (optionalField "status" PolicyStatus.decode).Reads repetition members policy.status := by
  simp only [fields, Record.reads_seq, Record.reads_map]
  constructor
  · intro read
    obtain ⟨_, ⟨_, ⟨_, metadata, rfl⟩, _, spec, rfl⟩, _, status, rfl⟩ := read
    exact ⟨metadata, spec, status⟩
  · intro each
    obtain ⟨metadata, spec, status⟩ := each
    exact ⟨_, ⟨_, ⟨_, metadata, rfl⟩, _, spec, rfl⟩, _, status, rfl⟩

/-- A policy whose status is set is read with that status. -/
theorem decode_withStatus {members : List (String × Json)} {policy : Policy} {value : Json}
    {status : PolicyStatus} (reads : decode (.obj members) = .ok policy)
    (solid : value.isSolid) (readsStatus : PolicyStatus.decode value = .ok status) :
    decode ((Json.obj members).withMember "status" value) =
      .ok { policy with status := some status } := by
  obtain ⟨pass, readsFields⟩ := Record.decode_obj_eq_ok.1 reads
  obtain ⟨metadata, spec, -⟩ := fields_reads.1 readsFields
  have values (name : String) : Json.valuesOf name
      ((Json.obj members).withMember "status" value).members =
        if name = "status" then [value] else Json.valuesOf name members :=
    Json.valuesOf_withMember ..
  refine Record.decode_obj_eq_ok.2 ⟨fun member isMember => ?_, fields_reads.2 ⟨?_, ?_, ?_⟩⟩
  · rcases Json.name_of_mem_withMember isMember with kept | rfl
    · exact pass member kept
    · exact .inl (show "status" ∈ fields.names by decide)
  · exact Record.fieldOr_congr ((values _).trans (if_neg (by decide))) metadata
  · exact Record.fieldOr_congr ((values _).trans (if_neg (by decide))) spec
  · refine (Record.fieldOr_of_single ((values _).trans (if_pos rfl))).2 ?_
    rw [Decoder.optional_of_solid solid, readsStatus]
    rfl

/-- A policy over whose status another one is laid as a merge patch is read with that status. -/
theorem decode_patched {members : List (String × Json)} {policy : Policy}
    (reads : decode (.obj members) = .ok policy) (status : PolicyStatus) :
    ∃ generation, decode ((Json.obj members).withMember "status"
      (status.encode.mergePatch (((Json.obj members).get? "status").getD .null))) =
        .ok { policy with status := some (status.laidOver generation) } := by
  obtain ⟨pass, generation, earlier⟩ :
      (∀ member ∈ (((Json.obj members).get? "status").getD .null).members,
        member.1 ∈ PolicyStatus.fields.names ∨ Decoder.skipMember member.2 = .ok ()) ∧
      ∃ generation, (optionalField "observedGeneration" Decoder.int64).Reads .refused
        (((Json.obj members).get? "status").getD .null).members generation := by
    obtain ⟨-, -, readsStatus⟩ := fields_reads.1 (Record.decode_obj_eq_ok.1 reads).2
    cases before : policy.status with
    | some earlier =>
      rw [before] at readsStatus
      obtain ⟨value, named, readable⟩ := Record.get?_of_optionalField readsStatus
      rw [named]
      exact ⟨Record.others_pass readable, PolicyStatus.generation_of_decode readable⟩
    | none =>
      rw [before] at readsStatus
      have empty : (((Json.obj members).get? "status").getD .null).members = [] := by
        rcases Record.get?_of_absentField readsStatus with absent | null
        · rw [absent]
          rfl
        · rw [null]
          rfl
      rw [empty]
      exact ⟨List.forall_mem_nil _, none, Record.fieldOr_of_absent rfl⟩
  obtain ⟨solid, readable⟩ := status.decode_mergePatch pass earlier
  exact ⟨generation, decode_withStatus reads solid readable⟩

end Policy

end PeerFirewall
