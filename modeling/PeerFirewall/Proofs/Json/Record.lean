import Mathlib.Data.List.Forall2
import PeerFirewall.Json.Record
import PeerFirewall.Proofs.Json.Members

/-!
# What a record reads

Reading a record from an object comes to the same as reading each field from the values of its name,
wherever they stand among the members (`Record.Reads`). `Record.Relates` says of a record in which
relation what it reads stands to the object or array, `Record.Within` that what it reads has a
property; both are put together from the fields.
-/
namespace PeerFirewall

/-- A changed result is a value just where the result is one. -/
theorem Decoder.map_eq_ok {ε α β : Type} {f : α → β} {result : Except ε α} {b : β} :
    result.map f = .ok b ↔ ∃ a, result = .ok a ∧ f a = b := by
  cases result <;> simp [Except.map]

/-- What is optional is null, or it is read from the value itself. -/
theorem Decoder.optional_eq_ok {α : Type} {decode : Decoder α} {value : Json} {found : Option α}
    (reads : optional decode value = .ok found) :
    value = .null ∧ found = none ∨ value ≠ .null ∧ ∃ a, found = some a ∧ decode value = .ok a := by
  have decoded (present : value ≠ .null) (reads : (decode value).map some = .ok found) :
      value ≠ .null ∧ ∃ a, found = some a ∧ decode value = .ok a := by
    obtain ⟨a, readable, same⟩ := Decoder.map_eq_ok.1 reads
    exact ⟨present, a, same.symm, readable⟩
  cases value with
  | null =>
    cases reads
    exact .inl ⟨rfl, rfl⟩
  | broken fault =>
    simp only [optional] at reads
    split at reads
    · cases reads
    · exact .inr (decoded (by simp) reads)
  | _ => exact .inr (decoded (by simp) reads)

/-- A text is read from that text. -/
theorem Decoder.string_eq_ok {value : Json} {text : String} (reads : string value = .ok text) :
    value = .str text := by
  cases value <;> cases reads
  rfl

/-- A list is read from an array, element by element. -/
theorem Decoder.list_eq_ok {α : Type} {decode : Decoder α} {value : Json} {found : List α}
    (reads : list decode value = .ok found) :
    ∃ elements, value = .arr elements ∧
      List.Forall₂ (fun element a => decode element = .ok a) elements found := by
  cases value with
  | arr elements =>
    refine ⟨elements, rfl, ?_⟩
    simp only [list] at reads
    induction elements generalizing found with
    | nil =>
      cases reads
      exact .nil
    | cons head rest ih =>
      unfold Decoder.elements at reads
      split at reads
      · cases reads
      · rename_i a readsHead
        split at reads
        · cases reads
        · rename_i others readsRest
          cases reads
          exact .cons readsHead (ih readsRest)
  | _ => cases reads

namespace Reading

variable {α β : Type}

/-- A changed reading reads what the change makes of a value read. -/
theorem map_eq_read {f : α → β} {reading : Reading α} {b : β} :
    reading.map f = .read b ↔ ∃ a, reading = .read a ∧ f a = b := by
  cases reading <;> simp [map]

/-- Two readings together read a value just where each reads one. -/
theorem both_eq_read {first : Reading (α → β)} {second : Reading α} {b : β} :
    first.both second = .read b ↔
      ∃ f, first = .read f ∧ ∃ a, second = .read a ∧ f a = b := by
  cases first with
  | read f => cases second <;> simp [both]
  | fault place error =>
    cases second with
    | fault other error' =>
      simp only [both, reduceCtorEq, false_and, exists_false, iff_false]
      split <;> nofun
    | _ => simp [both]
  | missing name place => cases second <;> simp [both]

/-- The reading of one value reads what its decoder does. -/
theorem ofResult_eq_read {place : Nat} {result : Except DecodeError α} {a : α} :
    ofResult place result = .read a ↔ result = .ok a := by
  cases result <;> simp [ofResult]

end Reading

namespace Record

variable {α β : Type}

/-! ### From the members of an object -/

/-- The occurrences of a field have the values of its name. -/
theorem map_occurrences (name : String) (members : List (String × Json)) :
    (occurrences name (placed members)).map (·.2) = Json.valuesOf name members := by
  simp only [occurrences, placed, Json.valuesOf, List.map_filterMap, List.filterMap_map]
  generalize 0 = start
  induction members generalizing start with
  | nil => rfl
  | cons member rest ih =>
    have later := ih (start + 1)
    by_cases same : member.1 = name
    · simp only [List.zipIdx_cons, List.filterMap_cons, Function.comp_apply, same, if_true,
        Option.map_some, List.cons.injEq, true_and]
      exact later
    · simp only [List.zipIdx_cons, List.filterMap_cons, Function.comp_apply, same, if_false,
        Option.map_none]
      exact later

/-- Whether a record reads a value from members. -/
def Reads (record : Record α) (repetition : Repetition) (members : List (String × Json)) (a : α) :
    Prop :=
  record.ofMembers repetition (placed members) = .read a

variable {repetition : Repetition} {members : List (String × Json)}

/-- A changed record reads what the change makes of a value read. -/
theorem reads_map {f : α → β} {record : Record α} {b : β} :
    (f <$> record).Reads repetition members b ↔
      ∃ a, record.Reads repetition members a ∧ f a = b :=
  Reading.map_eq_read

/-- Two records together read a value just where each reads one. -/
theorem reads_seq {first : Record (α → β)} {second : Record α} {b : β} :
    (first <*> second).Reads repetition members b ↔
      ∃ f, first.Reads repetition members f ∧ ∃ a, second.Reads repetition members a ∧ f a = b :=
  Reading.both_eq_read

/-- A changed record reads a changed value. -/
theorem Reads.map {record : Record α} {a : α} (f : α → β)
    (reads : record.Reads repetition members a) : (f <$> record).Reads repetition members (f a) :=
  reads_map.2 ⟨a, reads, rfl⟩

/-- Two records together read two values together. -/
theorem Reads.seq {first : Record (α → β)} {second : Record α} {f : α → β} {a : α}
    (left : first.Reads repetition members f) (right : second.Reads repetition members a) :
    (first <*> second).Reads repetition members (f a) :=
  reads_seq.2 ⟨f, left, a, right, rfl⟩

/-- A field without a value is absent. -/
theorem fieldOr_of_absent {name : String} {decode : Decoder α} {absent : Reading α}
    {beyond : Nat → Reading α} (values : Json.valuesOf name members = []) :
    (fieldOr name decode absent beyond).ofMembers repetition (placed members) = absent := by
  have none : occurrences name (placed members) = [] :=
    List.map_eq_nil_iff.1 ((map_occurrences name members).trans values)
  cases repetition <;> simp only [fieldOr, none, only, last]

/-- A field with one value reads that value. -/
theorem fieldOr_of_single {name : String} {decode : Decoder α} {absent : Reading α}
    {beyond : Nat → Reading α} {value : Json} {a : α}
    (values : Json.valuesOf name members = [value]) :
    (fieldOr name decode absent beyond).Reads repetition members a ↔ decode value = .ok a := by
  obtain ⟨⟨place, found⟩, one, rfl⟩ :=
    List.map_eq_singleton_iff.1 ((map_occurrences name members).trans values)
  cases repetition with
  | refused =>
    simp only [Reads, fieldOr, one, only]
    exact Reading.ofResult_eq_read
  | replaces =>
    simp only [Reads, fieldOr, one, last]
    cases decode found <;> simp

/-- A field whose member is set reads the value that is set. -/
theorem fieldOr_of_withMember {object value : Json} {name : String} {decode : Decoder α}
    {absent : Reading α} {beyond : Nat → Reading α} {a : α}
    (reads : (fieldOr name decode absent beyond).Reads repetition
      (object.withMember name value).members a) : decode value = .ok a :=
  (fieldOr_of_single ((Json.valuesOf_withMember object name value name).trans (if_pos rfl))).1 reads

/-- A field for a text whose member is set reads the text that is set. -/
theorem optionalField_of_withMember {object : Json} {name text : String} {found : Option String}
    (reads : (optionalField name Decoder.string).Reads repetition
      (object.withMember name (.str text)).members found) : found = some text := by
  have same : Decoder.optional Decoder.string (.str text) = .ok found := fieldOr_of_withMember reads
  exact (Except.ok.inj same).symm

section

variable {name : String} {decode : Decoder α}

/-- The only occurrence of a field is read from its value, or there is none. -/
theorem only_eq_read {absent : Reading α} {found : List (Nat × Json)} {a : α}
    (reads : only name decode absent found = .read a) :
    (∃ value, found.map (·.2) = [value] ∧ decode value = .ok a) ∨
      found = [] ∧ absent = .read a := by
  match found with
  | [] => exact .inr ⟨rfl, reads⟩
  | [(place, value)] => exact .inl ⟨value, rfl, Reading.ofResult_eq_read.1 reads⟩
  | (place, value) :: (again, _) :: _ =>
    simp only [only] at reads
    split at reads <;> cases reads

/-- A field that may be repeated is read from the value of its last occurrence, or there is none. -/
theorem last_eq_read {absent : Reading α} {found : List (Nat × Json)} {a : α}
    (reads : last decode absent found = .read a) :
    (∃ value, (found.map (·.2)).getLast? = some value ∧ decode value = .ok a) ∨
      found = [] ∧ absent = .read a := by
  induction found generalizing absent with
  | nil => exact .inr ⟨rfl, reads⟩
  | cons head rest ih =>
    obtain ⟨place, value⟩ := head
    unfold last at reads
    split at reads
    · cases reads
    · rename_i b decoded
      rcases ih reads with ⟨later, isLast, readable⟩ | ⟨rfl, same⟩
      · refine .inl ⟨later, ?_, readable⟩
        rw [List.map_cons, List.getLast?_cons, isLast, Option.getD_some]
      · cases same
        exact .inl ⟨value, rfl, decoded⟩

/-- A field is read from the value of its name, or it is absent. -/
theorem fieldOr_of_reads {absent : Reading α} {beyond : Nat → Reading α} {a : α}
    (reads : (fieldOr name decode absent beyond).Reads repetition members a) :
    (∃ value, (Json.obj members).get? name = some value ∧ decode value = .ok a) ∨
      (Json.obj members).get? name = none ∧ absent = .read a := by
  rw [Json.get?_eq_getLast?, Json.members, ← map_occurrences]
  have found : (∃ value, ((occurrences name (placed members)).map (·.2)).getLast? = some value ∧
      decode value = .ok a) ∨ occurrences name (placed members) = [] ∧ absent = .read a := by
    cases repetition with
    | refused =>
      rcases only_eq_read reads with ⟨value, one, readable⟩ | none
      · exact .inl ⟨value, congrArg List.getLast? one, readable⟩
      · exact .inr none
    | replaces => exact last_eq_read reads
  rcases found with there | ⟨none, same⟩
  · exact .inl there
  · rw [none]
    exact .inr ⟨rfl, same⟩

/-- A field that is not to be repeated is read alike from all members that have the same values for
its name. -/
theorem fieldOr_congr {absent : Reading α} {beyond : Nat → Reading α}
    {others : List (String × Json)}
    (same : Json.valuesOf name others = Json.valuesOf name members) {a : α}
    (reads : (fieldOr name decode absent beyond).Reads .refused members a) :
    (fieldOr name decode absent beyond).Reads .refused others a := by
  rcases only_eq_read reads with ⟨value, one, readable⟩ | ⟨none, isAbsent⟩
  · rw [map_occurrences, ← same] at one
    exact (fieldOr_of_single one).2 readable
  · have values : Json.valuesOf name others = [] := by
      rw [same, ← map_occurrences, none, List.map_nil]
    rw [Reads, fieldOr_of_absent values, isAbsent]

/-- An optional field that is there is read from the value of its name. -/
theorem get?_of_optionalField {a : α}
    (reads : (optionalField name decode).Reads repetition members (some a)) :
    ∃ value, (Json.obj members).get? name = some value ∧ decode value = .ok a := by
  rcases fieldOr_of_reads reads with ⟨value, named, readable⟩ | ⟨_, absent⟩
  · rcases Decoder.optional_eq_ok readable with ⟨_, none⟩ | ⟨_, b, same, decoded⟩
    · cases none
    · exact ⟨value, named, Option.some.inj same ▸ decoded⟩
  · cases absent

/-- The value of an optional field that is not there is null, if there is one. -/
theorem get?_of_absentField (reads : (optionalField name decode).Reads repetition members none) :
    (Json.obj members).get? name = none ∨ (Json.obj members).get? name = some .null := by
  rcases fieldOr_of_reads reads with ⟨value, named, readable⟩ | ⟨absent, _⟩
  · rcases Decoder.optional_eq_ok readable with ⟨rfl, _⟩ | ⟨_, _, there, _⟩
    · exact .inr named
    · cases there
  · exact .inl absent

end

/-! ### Whole objects -/

/-- Other members pass if each of them is a field or passes. -/
theorem others_eq_read {names : List String} {other : String → Shape} :
    others names other (placed members) = .read () ↔
      ∀ member ∈ members, member.1 ∈ names ∨ other member.1 member.2 = .ok () := by
  simp only [placed]
  generalize 0 = start
  induction members generalizing start with
  | nil => simp [others]
  | cons member rest ih =>
    obtain ⟨name, value⟩ := member
    simp only [List.zipIdx_cons, List.map_cons, others, List.forall_mem_cons]
    by_cases known : name ∈ names
    · simp only [known, if_true, true_or, true_and]
      exact ih (start + 1)
    · simp only [known, if_false, false_or]
      cases passes : other name value with
      | error error => simp
      | ok =>
        simp only [true_and]
        exact ih (start + 1)

/-- An object is read if its other members pass and its fields are read. -/
theorem readMembers_eq_read {record : Record α} {other : String → Shape} {a : α} :
    record.readMembers repetition other members = .read a ↔
      (∀ member ∈ members, member.1 ∈ record.names ∨ other member.1 member.2 = .ok ()) ∧
        record.Reads repetition members a := by
  simp only [readMembers, Reading.both_eq_read, Reading.map_eq_read]
  constructor
  · intro read
    obtain ⟨f, ⟨_, pass, rfl⟩, b, reads, rfl⟩ := read
    exact ⟨others_eq_read.1 pass, reads⟩
  · intro each
    obtain ⟨pass, reads⟩ := each
    exact ⟨_, ⟨(), others_eq_read.2 pass, rfl⟩, a, reads, rfl⟩

/-- The end of reading an object is a value just where a value is read. -/
theorem finish_eq_ok {reading : Reading α} {a : α} :
    finish reading = .ok a ↔ reading = .read a := by
  cases reading <;> simp [finish]

/-- An object is decoded if its other members can be skipped and its fields are read. -/
theorem decode_obj_eq_ok {name : String} {record : Record α} {a : α} :
    record.decode name (.obj members) = .ok a ↔
      (∀ member ∈ members, member.1 ∈ record.names ∨ Decoder.skipMember member.2 = .ok ()) ∧
        record.Reads .refused members a := by
  rw [decode, finish_eq_ok, readMembers_eq_read]

/-- What is decoded has no other members than fields and members that can be skipped. -/
theorem others_pass {name : String} {record : Record α} {value : Json} {a : α}
    (reads : record.decode name value = .ok a) :
    ∀ member ∈ value.members,
      member.1 ∈ record.names ∨ Decoder.skipMember member.2 = .ok () := by
  cases value with
  | obj members => exact (decode_obj_eq_ok.1 reads).1
  | _ => exact List.forall_mem_nil _

/-- An object that the API server defines is decoded if its other members have their shapes and its
fields are read. -/
theorem decodeBuiltIn_obj_eq_ok {name : String} {unkept : Shapes} {record : Record α} {a : α} :
    record.decodeBuiltIn name unkept (.obj members) = .ok a ↔
      (∀ member ∈ members,
        member.1 ∈ record.names ∨ Shape.member unkept member.1 member.2 = .ok ()) ∧
        record.Reads .replaces members a := by
  rw [decodeBuiltIn, finish_eq_ok, readMembers_eq_read]

/-! ### What is read stands in a relation to what it is read from -/

/-- Whether all that a record may read, from an object or from a whole array, stands in a relation
to what it is read from. -/
structure Relates (record : Record α) (relation : Json → α → Prop) : Prop where
  members : ∀ members a, record.Reads .refused members a → relation (.obj members) a
  elements : ∀ elements a, record.ofElements 0 elements = .read a → relation (.arr elements) a

/-- A changed record relates what the change makes of a value read. -/
theorem Relates.map {record : Record α} {relation : Json → α → Prop} {result : Json → β → Prop}
    {f : α → β} (relates : record.Relates relation)
    (brings : ∀ value a, relation value a → result value (f a)) :
    (f <$> record).Relates result where
  members members b reads := by
    obtain ⟨a, readsFirst, rfl⟩ := reads_map.1 reads
    exact brings _ a (relates.members members a readsFirst)
  elements elements b reads := by
    obtain ⟨a, readsFirst, rfl⟩ := Reading.map_eq_read.1 reads
    exact brings _ a (relates.elements elements a readsFirst)

/-- Two records together relate what the first one relates whatever the second one reads. -/
theorem Relates.seq {first : Record (α → β)} {second : Record α} {relation : Json → β → Prop}
    (relates : first.Relates fun value f => ∀ a, relation value (f a)) :
    (first <*> second).Relates relation where
  members members b reads := by
    obtain ⟨f, readsFirst, a, _, rfl⟩ := reads_seq.1 reads
    exact relates.members members f readsFirst a
  elements elements b reads := by
    obtain ⟨f, readsFirst, a, _, rfl⟩ := Reading.both_eq_read.1 reads
    exact relates.elements elements f readsFirst a

/-- What is decoded from an object or an array stands in the relation to it. -/
theorem Relates.decode {name : String} {record : Record α} {relation : Json → α → Prop}
    (relates : record.Relates relation) {value : Json} {a : α}
    (decoded : record.decode name value = .ok a) : relation value a := by
  unfold Record.decode at decoded
  split at decoded
  · exact relates.members _ a (readMembers_eq_read.1 (finish_eq_ok.1 decoded)).2
  · split at decoded
    · cases decoded
    · cases decoded
    · cases decoded
      exact relates.elements _ a ‹_›
    · cases decoded
  · unfold Decoder.mismatch at decoded
    split at decoded <;> cases decoded

/-! ### What is read has a property -/

/-- Whether all that a record may read has a property. -/
structure Within (record : Record α) (property : α → Prop) : Prop where
  members : ∀ repetition members a, record.ofMembers repetition members = .read a → property a
  elements : ∀ place elements a, record.ofElements place elements = .read a → property a

/-- What a changed record reads has a property if the change brings it about. -/
theorem Within.map {record : Record α} {property : α → Prop} {result : β → Prop} {f : α → β}
    (within : record.Within property) (brings : ∀ a, property a → result (f a)) :
    (f <$> record).Within result where
  members repetition members b reads := by
    obtain ⟨a, readsFirst, rfl⟩ := Reading.map_eq_read.1 reads
    exact brings a (within.members repetition members a readsFirst)
  elements place elements b reads := by
    obtain ⟨a, readsFirst, rfl⟩ := Reading.map_eq_read.1 reads
    exact brings a (within.elements place elements a readsFirst)

/-- What two records read together has a property if what they read brings it about. -/
theorem Within.seq {first : Record (α → β)} {second : Record α} {property : α → Prop}
    {result : β → Prop} (left : first.Within fun f => ∀ a, property a → result (f a))
    (right : second.Within property) : (first <*> second).Within result where
  members repetition members b reads := by
    obtain ⟨f, readsFirst, a, readsSecond, rfl⟩ := Reading.both_eq_read.1 reads
    exact left.members repetition members f readsFirst a
      (right.members repetition members a readsSecond)
  elements place elements b reads := by
    obtain ⟨f, readsFirst, a, readsSecond, rfl⟩ := Reading.both_eq_read.1 reads
    exact left.elements place elements f readsFirst a (right.elements _ _ a readsSecond)

/-- What the only occurrence of a field reads has the property of absent and of decoded values. -/
theorem only_within {name : String} {decode : Decoder α} {absent : Reading α}
    {property : α → Prop} (ifAbsent : ∀ a, absent = .read a → property a)
    (decoded : ∀ value a, decode value = .ok a → property a) {found : List (Nat × Json)} {a : α}
    (reads : only name decode absent found = .read a) : property a := by
  match found with
  | [] => exact ifAbsent a reads
  | [(place, value)] => exact decoded value a (Reading.ofResult_eq_read.1 reads)
  | (place, value) :: again :: rest =>
    simp only [only] at reads
    split at reads <;> contradiction

/-- What the last occurrence of a field reads has the property of absent and of decoded values. -/
theorem last_within {decode : Decoder α} {property : α → Prop}
    (decoded : ∀ value a, decode value = .ok a → property a) {found : List (Nat × Json)}
    {kept : Reading α} (ifKept : ∀ a, kept = .read a → property a) {a : α}
    (reads : last decode kept found = .read a) : property a := by
  induction found generalizing kept with
  | nil => exact ifKept a reads
  | cons head rest ih =>
    simp only [last] at reads
    split at reads
    · contradiction
    · rename_i value readable
      refine ih (fun b same => ?_) reads
      cases same
      exact decoded _ _ readable

/-- What a field reads has the property of absent and of decoded values. -/
theorem fieldOr_within {name : String} {decode : Decoder α} {absent : Reading α}
    {beyond : Nat → Reading α} {property : α → Prop}
    (ifAbsent : ∀ a, absent = .read a → property a)
    (ifBeyond : ∀ place a, beyond place = .read a → property a)
    (decoded : ∀ value a, decode value = .ok a → property a) :
    (fieldOr name decode absent beyond).Within property where
  members repetition members a reads := by
    cases repetition with
    | refused => exact only_within ifAbsent decoded reads
    | replaces => exact last_within decoded ifAbsent reads
  elements place elements a reads := by
    match elements with
    | [] => exact ifBeyond place a reads
    | value :: rest => exact decoded value a (Reading.ofResult_eq_read.1 reads)

/-- What a field reads that has to be there has the property of decoded values. -/
theorem field_within {name : String} {decode : Decoder α} {property : α → Prop}
    (decoded : ∀ value a, decode value = .ok a → property a) :
    (field name decode).Within property :=
  fieldOr_within nofun nofun decoded

/-- What is optional has the property of values decoded from what is not null if it is there. -/
theorem optionalField_within {name : String} {decode : Decoder α} {property : α → Prop}
    (decoded : ∀ value a, value ≠ .null → decode value = .ok a → property a) :
    (optionalField name decode).Within fun found => ∀ a, found = some a → property a := by
  refine fieldOr_within ?_ ?_ ?_
  · intro a found
    cases found
    nofun
  · intro value a found
    cases found
    nofun
  · intro value found reads a same
    subst same
    rcases Decoder.optional_eq_ok reads with ⟨_, none⟩ | ⟨present, b, same, readable⟩
    · cases none
    · cases same
      exact decoded value a present readable

/-- The elements of a list have the property of decoded values. -/
theorem list_within {decode : Decoder α} {property : α → Prop}
    (decoded : ∀ value a, decode value = .ok a → property a) {value : Json} {found : List α}
    (reads : Decoder.list decode value = .ok found) : ∀ a ∈ found, property a := by
  obtain ⟨elements, -, each⟩ := Decoder.list_eq_ok reads
  clear reads
  induction each with
  | nil => exact List.forall_mem_nil _
  | cons head _ ih => exact List.forall_mem_cons.2 ⟨decoded _ _ head, ih⟩

/-- Whatever is read, it is something. -/
theorem Within.trivial (record : Record α) : record.Within fun _ => True :=
  ⟨fun _ _ _ _ => .intro, fun _ _ _ _ => .intro⟩

/-- What is decoded from an object or an array has the property of all that is read. -/
theorem Within.decode {name : String} {record : Record α} {property : α → Prop}
    (within : record.Within property) {value : Json} {a : α}
    (decoded : record.decode name value = .ok a) : property a :=
  have relates : record.Relates fun _ => property :=
    ⟨fun members a => within.members .refused (placed members) a, within.elements 0⟩
  relates.decode decoded

/-- What is decoded from an object that the API server defines has the property of all that is
read. -/
theorem Within.decodeBuiltIn {name : String} {unkept : Shapes} {record : Record α}
    {property : α → Prop} (within : record.Within property) {value : Json} {a : α}
    (decoded : record.decodeBuiltIn name unkept value = .ok a) : property a := by
  unfold Record.decodeBuiltIn at decoded
  split at decoded
  · exact within.members _ _ a (readMembers_eq_read.1 (finish_eq_ok.1 decoded)).2
  · unfold Decoder.mismatch at decoded
    split at decoded <;> cases decoded

end Record

end PeerFirewall
