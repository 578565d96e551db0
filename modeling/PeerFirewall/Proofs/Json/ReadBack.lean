import PeerFirewall.Json.Choice
import PeerFirewall.Proofs.Json.Record

/-!
# Values that are read back

`ReadsBack` says that a decoder makes a value again of what it was written as, also where the value
is optional. Texts, truth values, numbers and named choices are read back, lists are if their
elements are, and a record is if each field has one value that is.
-/
namespace PeerFirewall

/-- Whether a value is neither null nor unreadable. -/
def Json.isSolid : Json → Bool
  | .null | .broken _ => false
  | _ => true

/-- Whether a decoder reads a value back from what it is written as. -/
structure ReadsBack {α : Type} (encode : α → Json) (decode : Decoder α) (a : α) : Prop where
  solid : (encode a).isSolid
  read : decode (encode a) = .ok a

variable {α β : Type}

/-! ### Single values -/

/-- What is solid is read the same where it is optional. -/
theorem Decoder.optional_of_solid {decode : Decoder α} {value : Json} (solid : value.isSolid) :
    optional decode value = (decode value).map some := by
  cases value <;> first | rfl | contradiction

/-- A text is read back. -/
theorem readsBack_str (text : String) : ReadsBack .str Decoder.string text := ⟨rfl, rfl⟩

/-- A truth value is read back. -/
theorem readsBack_bool (value : Bool) : ReadsBack .bool Decoder.bool value := ⟨rfl, rfl⟩

/-- A whole number between its bounds is read. -/
theorem Decoder.intBetween_of_le {low high value : Int} {expected : String} (atLeast : low ≤ value)
    (atMost : value ≤ high) : intBetween low high expected (.int value) = .ok value := by
  simp [intBetween, atLeast, atMost]

/-- A whole number of 64 bits is read back. -/
theorem readsBack_int64 (n : Int64) :
    ReadsBack (fun n : Int64 => .int n.toInt) Decoder.int64 n where
  solid := rfl
  read := by
    have atLeast : -9223372036854775808 ≤ n.toInt := n.le_toInt
    have atMost : n.toInt ≤ 9223372036854775807 := n.toInt_le
    rw [Decoder.int64, Decoder.intBetween_of_le atLeast atMost]
    exact congrArg Except.ok n.ofInt_toInt

/-- A whole number of 32 bits is read back. -/
theorem readsBack_int32 (n : Int32) :
    ReadsBack (fun n : Int32 => .int n.toInt) Decoder.int32 n where
  solid := rfl
  read := by
    have atLeast : -2147483648 ≤ n.toInt := n.le_toInt
    have atMost : n.toInt ≤ 2147483647 := n.toInt_le
    rw [Decoder.int32, Decoder.intBetween_of_le atLeast atMost]
    exact congrArg Except.ok n.ofInt_toInt

/-- A named choice is read back. -/
theorem readsBack_choice [Choice α] (value : α) : ReadsBack Choice.encode Choice.decode value :=
  ⟨rfl, Choice.decode_encode value⟩

/-- A list is read back if its elements are. -/
theorem readsBack_list {encode : α → Json} {decode : Decoder α} {elements : List α}
    (back : ∀ a ∈ elements, ReadsBack encode decode a) :
    ReadsBack (Json.list encode) (Decoder.list decode) elements where
  solid := rfl
  read := by
    simp only [Json.list, Decoder.list]
    induction elements with
    | nil => rfl
    | cons head rest ih =>
      obtain ⟨first, later⟩ := List.forall_mem_cons.1 back
      simp only [List.map_cons, Decoder.elements, first.read, ih later]

namespace Record

variable {repetition : Repetition} {members : List (String × Json)} {name : String}
  {encode : α → Json} {decode : Decoder α}

/-! ### Fields -/

/-- A field is read back from its value. -/
theorem field_reads {a : α} (values : Json.valuesOf name members = [encode a])
    (back : ReadsBack encode decode a) : (field name decode).Reads repetition members a :=
  (fieldOr_of_single values).2 back.read

/-- An optional field is read back from its value, if there is one. -/
theorem optionalField_reads {found : Option α}
    (values : Json.valuesOf name members = (found.map encode).toList)
    (back : ∀ a, found = some a → ReadsBack encode decode a) :
    (optionalField name decode).Reads repetition members found := by
  cases found with
  | none => exact fieldOr_of_absent values
  | some a =>
    refine (fieldOr_of_single values).2 ?_
    have isBack := back a rfl
    rw [Decoder.optional_of_solid isBack.solid, isBack.read]
    rfl

/-- A field with a default is read back from its value. -/
theorem fieldWithDefault_reads {a default : α} (values : Json.valuesOf name members = [encode a])
    (back : ReadsBack encode decode a) :
    (fieldWithDefault name decode default).Reads repetition members a :=
  (fieldOr_of_single values).2 back.read

/-- A field whose default stands for null is read back from its value. -/
theorem lenientField_reads {a default : α} (values : Json.valuesOf name members = [encode a])
    (back : ReadsBack encode decode a) :
    (lenientField name decode default).Reads repetition members a := by
  have reads : (optionalField name decode).Reads repetition members (some a) :=
    optionalField_reads values fun _ same => Option.some.inj same ▸ back
  exact reads.map (·.getD default)

/-! ### Whole objects -/

/-- An object of the fields of a record is read back where the fields are. -/
theorem decode_present {record : Record α} {members : List (String × Option Json)} {a : α}
    (known : members.map (·.1) = record.names)
    (reads : record.Reads .refused (Json.present members) a) :
    record.decode name (.record members) = .ok a :=
  decode_obj_eq_ok.2
    ⟨fun _ member => .inl (known ▸ Json.name_mem_of_mem_present member), reads⟩

/-- An object that the API server defines is read back where the fields are. -/
theorem decodeBuiltIn_present {record : Record α} {unkept : Shapes}
    {members : List (String × Option Json)} {a : α}
    (known : members.map (·.1) = record.names)
    (reads : record.Reads .replaces (Json.present members) a) :
    record.decodeBuiltIn name unkept (.record members) = .ok a :=
  decodeBuiltIn_obj_eq_ok.2
    ⟨fun _ member => .inl (known ▸ Json.name_mem_of_mem_present member), reads⟩

end Record

end PeerFirewall
