import PeerFirewall.Proofs.Json.ReadBack

/-!
# What a reader looks at

A reader of a record looks at the members that it names and passes over all others. An `Excerpt`
says what of a value a reader looks at, in the one spelling in which it would be written: an array
that stands for a record is the object of its fields, an object that stands for a name is the name,
and a member that is null is left out.

What is read from a value is therefore written as the excerpt of that value, if it is not asked
whether an empty list is written or left out (`Excerpt.Faithful`). This is put together from the
fields of a record (`Excerpt.faithful_record`), for which an array is first spread out into members
(`Record.Aligned`).
-/
namespace PeerFirewall

namespace Json

/-! ### Values but for empty lists -/

mutual

/-- A value without the members that are empty lists. -/
def pruned : Json → Json
  | .arr elements => .arr (prunedElements elements)
  | .obj members => .obj (prunedMembers members)
  | other => other

/-- Elements without the members that are empty lists. -/
def prunedElements : List Json → List Json
  | [] => []
  | element :: rest => pruned element :: prunedElements rest

/-- Members without those that are empty lists. -/
def prunedMembers : List (String × Json) → List (String × Json)
  | [] => []
  | (name, value) :: rest =>
    if value = .arr [] then prunedMembers rest else (name, pruned value) :: prunedMembers rest

end

/-- Whether two values are the same but for the order of members and for members that are empty
lists. -/
def IsLike (value other : Json) : Prop := value.pruned.sorted = other.pruned.sorted

instance (value other : Json) : Decidable (value.IsLike other) :=
  inferInstanceAs (Decidable (value.pruned.sorted = other.pruned.sorted))

/-- Elements are pruned one by one. -/
theorem prunedElements_eq_map (elements : List Json) :
    prunedElements elements = elements.map pruned := by
  induction elements with
  | nil => rw [prunedElements, List.map_nil]
  | cons head rest ih => rw [prunedElements, ih, List.map_cons]

/-- Pruning a list leaves as many elements as there were. -/
theorem pruned_list {α : Type} (encode : α → Json) (elements : List α) :
    (list encode elements).pruned = list (fun a => (encode a).pruned) elements := by
  rw [list, pruned, prunedElements_eq_map, List.map_map]
  rfl

/-- Only an empty list is pruned to an empty list. -/
theorem pruned_eq_empty {value : Json} : value.pruned = .arr [] ↔ value = .arr [] := by
  cases value with
  | arr elements =>
    rw [pruned, prunedElements_eq_map, Json.arr.injEq, Json.arr.injEq, List.map_eq_nil_iff]
  | _ => simp [pruned]

/-- What pruning leaves of a member that may be absent. -/
def prunedField (value : Option Json) : Option Json :=
  value.bind fun value => if value = .arr [] then none else some value.pruned

/-- Members are pruned one by one. -/
theorem prunedMembers_present (fields : List (String × Option Json)) :
    prunedMembers (present fields) =
      present (fields.map fun field => (field.1, prunedField field.2)) := by
  induction fields with
  | nil => rw [present, List.filterMap_nil, prunedMembers]; rfl
  | cons field rest ih =>
    obtain ⟨name, _ | value⟩ := field
    · exact ih
    · change prunedMembers ((name, value) :: present rest) = _
      rw [prunedMembers, ih]
      by_cases empty : value = .arr []
      · simp [present, prunedField, empty]
      · simp [present, prunedField, empty]

/-- A record is pruned field by field. -/
theorem pruned_record (fields : List (String × Option Json)) :
    (record fields).pruned =
      record (fields.map fun field => (field.1, prunedField field.2)) := by
  change pruned (.obj (present fields)) = .obj (present _)
  rw [pruned, prunedMembers_present]

/-- Fields that are pruned alike are as good as each other. -/
theorem prunedField_congr {value other : Json} (same : value.pruned = other.pruned) :
    prunedField (some value) = prunedField (some other) := by
  have empty : value = .arr [] ↔ other = .arr [] := by
    rw [← pruned_eq_empty, same, pruned_eq_empty]
  simp only [prunedField, Option.bind_some, empty, same]

/-- A list that is left out where it is empty is as good as one that is written. -/
theorem prunedField_list_nil {α : Type} (encode : α → Json) :
    prunedField (some (list encode [])) = none := by
  simp [prunedField, list]

end Json

/-! ### Arrays that stand for records -/

namespace Json

/-- The values of the names of some elements are these elements, if no name comes twice. -/
theorem valuesOf_zip {names : List String} (distinct : names.Nodup) (elements : List Json)
    {place : Nat} (inside : place < names.length) :
    valuesOf names[place] (names.zip elements) = elements[place]?.toList := by
  induction names generalizing elements place with
  | nil => cases inside
  | cons name rest ih =>
    obtain ⟨fresh, distinctRest⟩ := List.nodup_cons.1 distinct
    cases elements with
    | nil => rfl
    | cons element others =>
      have absent : valuesOf name (rest.zip others) = [] := by
        refine List.filterMap_eq_nil_iff.2 fun member isMember => if_neg ?_
        rintro rfl
        exact fresh (List.of_mem_zip isMember).1
      cases place with
      | zero => simpa [valuesOf] using absent
      | succ place =>
        have within : place < rest.length := Nat.lt_of_succ_lt_succ inside
        have different : name ≠ rest[place] := fun same => fresh (same ▸ List.getElem_mem within)
        simpa [valuesOf, different] using ih distinctRest others within

end Json

namespace Record

variable {α β : Type}

/-- Whether a record reads from the elements of an array what it reads from members with the same
values. -/
def Aligned (record : Record α) : Prop :=
  ∀ start elements members a,
    (∀ place, (inside : place < record.names.length) →
      Json.valuesOf record.names[place] members = elements[place]?.toList) →
    record.ofElements start elements = .read a → record.Reads .refused members a

/-- A changed record is aligned. -/
theorem Aligned.map {record : Record α} (aligned : record.Aligned) (f : α → β) :
    (f <$> record).Aligned := by
  intro start elements members b same reads
  obtain ⟨a, readsA, rfl⟩ := Reading.map_eq_read.1 reads
  exact (aligned start elements members a same readsA).map f

/-- Two aligned records together are aligned. -/
theorem Aligned.seq {first : Record (α → β)} {second : Record α} (left : first.Aligned)
    (right : second.Aligned) : (first <*> second).Aligned := by
  intro start elements members b same reads
  obtain ⟨f, readsF, a, readsA, rfl⟩ := Reading.both_eq_read.1 reads
  have names : (first <*> second).names = first.names ++ second.names := rfl
  refine (left start elements members f (fun place inside => ?_) readsF).seq
    (right (start + first.width) (elements.drop first.width) members a (fun place inside => ?_)
      readsA)
  · have within : place < (first <*> second).names.length := by
      rw [names, List.length_append]
      omega
    have here := same place within
    simp only [names, List.getElem_append_left inside] at here
    exact here
  · have within : first.width + place < (first <*> second).names.length := by
      rw [names, List.length_append]
      exact Nat.add_lt_add_left inside _
    have here := same (first.width + place) within
    simp only [names, width, List.getElem_append_right (Nat.le_add_right ..),
      Nat.add_sub_cancel_left] at here
    rw [List.getElem?_drop]
    exact here

/-- A field that reads nothing else beyond an array than where it is absent is aligned. -/
theorem fieldOr_aligned {name : String} {decode : Decoder α} {absent : Reading α}
    {beyond : Nat → Reading α} (same : ∀ place a, beyond place = .read a → absent = .read a) :
    (fieldOr name decode absent beyond).Aligned := by
  intro start elements members a values reads
  have here : Json.valuesOf name members = elements[0]?.toList := values 0 Nat.zero_lt_one
  cases elements with
  | nil =>
    rw [Reads, fieldOr_of_absent here]
    exact same start a reads
  | cons element rest => exact (fieldOr_of_single here).2 (Reading.ofResult_eq_read.1 reads)

/-- A field that has to be there is aligned. -/
theorem field_aligned (name : String) (decode : Decoder α) : (field name decode).Aligned :=
  fieldOr_aligned nofun

/-- A field with a default is aligned. -/
theorem fieldWithDefault_aligned (name : String) (decode : Decoder α) (default : α) :
    (fieldWithDefault name decode default).Aligned :=
  fieldOr_aligned fun _ _ => id

/-- The members that a record is read from: an array stands for the object of its elements. -/
def membersIn (names : List String) : Json → List (String × Json)
  | .obj members => members
  | .arr elements => names.zip elements
  | _ => []

/-- What is decoded is read from the members that the value stands for. -/
theorem reads_of_decode {name : String} {record : Record α} (aligned : record.Aligned)
    (distinct : record.names.Nodup) {value : Json} {a : α}
    (decoded : record.decode name value = .ok a) :
    record.Reads .refused (membersIn record.names value) a := by
  cases value with
  | obj members => exact (decode_obj_eq_ok.1 decoded).2
  | arr elements =>
    refine aligned 0 elements _ a (fun place inside => ?_) ?_
    · exact Json.valuesOf_zip distinct elements inside
    · simp only [decode] at decoded
      split at decoded <;> cases decoded
      assumption
  | _ => cases decoded

end Record

/-! ### Excerpts -/

/-- What of a value a reader looks at, as it would be written. -/
abbrev Excerpt := Json → Json

namespace Excerpt

/-- The whole value. -/
def whole : Excerpt := fun value => value

/-- A named choice: its name. -/
def choice : Excerpt
  | .obj [(name, .null)] => .str name
  | value => value

/-- The elements of a list. -/
def list (element : Excerpt) : Excerpt
  | .arr elements => .arr (elements.map element)
  | value => value

/-- A member that may be absent; null is as good as absent. -/
def member (excerpt : Excerpt) (value : Option Json) : Option Json :=
  value.bind fun value => if value = .null then none else some (excerpt value)

/-- Some fields of a record. -/
def record (fields : List (String × Excerpt)) : Excerpt := fun value =>
  .record (fields.map fun field =>
    (field.1, field.2.member
      ((Json.obj (Record.membersIn (fields.map (·.1)) value)).get? field.1)))

variable {α : Type}

/-- Whether what a decoder reads from a value is written as the excerpt of the value, but for
members that are empty lists. -/
structure Faithful (excerpt : Excerpt) (decode : Decoder α) (encode : α → Json) : Prop where
  present : ∀ a, decode .null ≠ .ok a
  same : ∀ value a, decode value = .ok a → (excerpt value).pruned = (encode a).pruned

/-- A text is looked at as a whole. -/
theorem faithful_string : Faithful whole Decoder.string .str where
  present := nofun
  same value text reads := by rw [whole, Decoder.string_eq_ok reads]

/-- A whole number of 32 bits is looked at as a whole. -/
theorem faithful_int32 : Faithful whole Decoder.int32 fun n : Int32 => .int n.toInt where
  present := nofun
  same value n reads := by
    obtain ⟨m, bounded, rfl⟩ := Decoder.map_eq_ok.1 reads
    cases value with
    | int m =>
      simp only [Decoder.intBetween] at bounded
      split at bounded
      · cases bounded
        have fits : (Int32.ofInt m).toInt = m := Int32.toInt_ofInt_of_le (by omega) (by omega)
        rw [fits, whole]
      · cases bounded
    | _ => cases bounded

/-- A choice that is found by a name has that name. -/
theorem name_of_choose [Choice α] {name : String} {a : α}
    (found : Decoder.choose ((Choice.all : List α).map fun other => (Choice.name other, other))
      name = .ok a) : name = Choice.name a := by
  unfold Decoder.choose at found
  split at found
  · rename_i pair isFound
    cases found
    obtain ⟨other, -, rfl⟩ := List.mem_map.1 (List.mem_of_find?_eq_some isFound)
    have same := List.find?_some isFound
    exact (of_decide_eq_true same).symm
  · cases found

/-- A choice that is read from members has one of them, the value of its name, which is null. -/
theorem eq_of_choiceOfMembers {choices : List (String × α)} {members : List (String × Json)}
    {a : α} (reads : Decoder.choiceOfMembers choices members = .ok a) :
    ∃ name, members = [(name, .null)] ∧ Decoder.choose choices name = .ok a := by
  unfold Decoder.choiceOfMembers at reads
  split at reads
  case h_1 name payload =>
    split at reads
    case h_1 => cases reads
    case h_2 other chosen =>
      obtain ⟨⟨⟩, empty, rfl⟩ := Decoder.map_eq_ok.1 reads
      cases payload with
      | null => exact ⟨name, rfl, chosen⟩
      | _ => cases empty
  case h_2 => cases reads

/-- A named choice is looked at by its name. -/
theorem faithful_choice [Choice α] :
    Faithful choice (Choice.decode : Decoder α) Choice.encode where
  present := nofun
  same value a reads := by
    cases value with
    | str name =>
      rw [choice, name_of_choose reads, Choice.encode]
      nofun
    | obj members =>
      have inMembers : Decoder.choiceOfMembers
          ((Choice.all : List α).map fun other => (Choice.name other, other)) members =
            .ok a := by
        simp only [Choice.decode, Decoder.choice, Decoder.orInText] at reads
        split at reads
        · cases reads
          assumption
        · cases reads
        · cases reads
      obtain ⟨name, rfl, chosen⟩ := eq_of_choiceOfMembers inMembers
      rw [choice, name_of_choose chosen, Choice.encode]
    | _ => cases reads

/-- A list is looked at element by element. -/
theorem Faithful.list {excerpt : Excerpt} {decode : Decoder α} {encode : α → Json}
    (faithful : excerpt.Faithful decode encode) :
    (Excerpt.list excerpt).Faithful (Decoder.list decode) (Json.list encode) where
  present := nofun
  same value found reads := by
    obtain ⟨elements, rfl, each⟩ := Decoder.list_eq_ok reads
    have all := each.imp fun element a readsElement => faithful.same element a readsElement
    have same : elements.map (fun element => (excerpt element).pruned) =
        found.map fun a => (encode a).pruned :=
      List.forall₂_eq_eq_eq ▸ List.forall₂_map_left_iff.2 (List.forall₂_map_right_iff.2 all)
    rw [Json.pruned_list, Excerpt.list]
    exact (Json.pruned_list excerpt elements).trans (congrArg Json.arr same)

section

variable {excerpt : Excerpt} {decode : Decoder α} {encode : α → Json} {name : String}
  {members : List (String × Json)}

/-- A member that is decoded is looked at. -/
theorem Faithful.member_eq (faithful : excerpt.Faithful decode encode) {value : Json} {a : α}
    (decoded : decode value = .ok a) :
    Json.prunedField (excerpt.member (some value)) = Json.prunedField (some (encode a)) := by
  have present : value ≠ .null := by
    rintro rfl
    exact faithful.present a decoded
  rw [member, Option.bind_some, if_neg present]
  exact Json.prunedField_congr (faithful.same value a decoded)

/-- A field that has to be there is looked at. -/
theorem Faithful.field (faithful : excerpt.Faithful decode encode) {a : α}
    (reads : (Record.field name decode).Reads .refused members a) :
    Json.prunedField (excerpt.member ((Json.obj members).get? name)) =
      Json.prunedField (some (encode a)) := by
  rcases Record.fieldOr_of_reads reads with ⟨value, named, decoded⟩ | ⟨_, absent⟩
  · rw [named]
    exact faithful.member_eq decoded
  · cases absent

/-- An optional field is looked at, if it is there. -/
theorem Faithful.optionalField (faithful : excerpt.Faithful decode encode) {found : Option α}
    (reads : (Record.optionalField name decode).Reads .refused members found) :
    Json.prunedField (excerpt.member ((Json.obj members).get? name)) =
      Json.prunedField (found.map encode) := by
  cases found with
  | some a =>
    obtain ⟨value, named, decoded⟩ := Record.get?_of_optionalField reads
    rw [named]
    exact faithful.member_eq decoded
  | none =>
    rcases Record.get?_of_absentField reads with absent | null
    · rw [absent]
      rfl
    · rw [null]
      rfl

/-- A list that may be left out is looked at, if it is there. -/
theorem Faithful.listField (faithful : excerpt.Faithful decode encode) {found : List α}
    (reads : (Record.fieldWithDefault name (Decoder.list decode) []).Reads .refused members
      found) :
    Json.prunedField ((Excerpt.list excerpt).member ((Json.obj members).get? name)) =
      Json.prunedField (some (Json.list encode found)) := by
  rcases Record.fieldOr_of_reads reads with ⟨value, named, decoded⟩ | ⟨absent, empty⟩
  · rw [named]
    exact faithful.list.member_eq decoded
  · cases empty
    rw [absent, Json.prunedField_list_nil]
    rfl

end

/-- A record is looked at field by field. -/
theorem faithful_record {record : Record α} {name : String} {fields : List (String × Excerpt)}
    {encode : α → List (String × Option Json)} (named : fields.map (·.1) = record.names)
    (aligned : record.Aligned) (distinct : record.names.Nodup)
    (each : ∀ members a, record.Reads .refused members a →
      fields.map (fun field =>
        (field.1, Json.prunedField (field.2.member ((Json.obj members).get? field.1)))) =
      (encode a).map fun field => (field.1, Json.prunedField field.2)) :
    (Excerpt.record fields).Faithful (record.decode name) fun a => .record (encode a) where
  present := nofun
  same value a decoded := by
    have reads := Record.reads_of_decode aligned distinct decoded
    rw [Excerpt.record, Json.pruned_record, Json.pruned_record, List.map_map, named]
    exact congrArg Json.record (each _ a reads)

end Excerpt

end PeerFirewall
