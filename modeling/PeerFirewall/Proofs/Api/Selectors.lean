import PeerFirewall.Proofs.Text.Utf8

/-!
# Which objects a selector selects

The text of a selector is a list of terms with commas between them. Each is a name, an operator and
a value: one equals sign or two of them say that the name is to have the value, an exclamation mark
before one that it is not to. These are the terms of the API server that compare a name with one
value; a text with any other term selects nothing here. What has a plain value under a name can be
asked for by a selector (`Selector.admits_equal`).
-/
namespace PeerFirewall

/-- What a selector asks of the value of one name. -/
structure SelectorTerm where
  name : String
  value : String
  /-- Whether the name is to have this value, or is not to. -/
  equal : Bool
deriving DecidableEq, Repr

namespace SelectorTerm

/-- Whether a character may stand in a value. -/
def inValue (c : Char) : Bool := c.isAlphanum || c ∈ ['-', '_', '.']

/-- Whether a character may stand in a name; a slash stands behind its prefix. -/
def inName (c : Char) : Bool := inValue c || c == '/'

/-- Reads the operator: whether the name is to have the value behind it, and that value. -/
def operator? : List Char → Option (Bool × List Char)
  | '!' :: '=' :: value => some (false, value)
  | '=' :: '=' :: value => some (true, value)
  | '=' :: value => some (true, value)
  | _ => none

/-- Reads a term. -/
def parse? (text : List Char) : Option SelectorTerm :=
  let name := text.takeWhile inName
  match operator? (text.dropWhile inName) with
  | some (equal, value) =>
    if name ≠ [] ∧ value.all inValue then some ⟨String.ofList name, String.ofList value, equal⟩
    else none
  | none => none

/-- Whether the values of names meet the term. Where a name is not to have a value, it may have
none. -/
def Holds (term : SelectorTerm) (value? : String → Option String) : Prop :=
  value? term.name = some term.value ↔ term.equal = true

end SelectorTerm

namespace Selector

/-- Reads the terms of a selector; an empty text makes none. -/
def parse? (text : String) : Option (List SelectorTerm) :=
  if text = "" then some [] else (text.toList.splitOn ',').mapM SelectorTerm.parse?

/-- Whether a selector can be read and each of its terms is met. -/
def Admits (text : String) (met : SelectorTerm → Prop) : Prop :=
  ∃ terms, parse? text = some terms ∧ ∀ term ∈ terms, met term

end Selector

/-- Whether a text can be the value of a label: at most 63 letters, digits, hyphens, underscores and
dots, at least one of them, letters or digits first and last. -/
structure LabelValue (value : String) : Prop where
  short : value.length ≤ 63
  each : ∀ c ∈ value.toList, c.isAlphanum ∨ c ∈ ['-', '_', '.']
  begins : ∃ first rest, value.toList = first :: rest ∧ first.isAlphanum
  ends : ∃ front last, value.toList = front ++ [last] ∧ last.isAlphanum

namespace LabelValue

variable {value : String}

/-- The value of a label is not empty. -/
theorem ne_empty (label : LabelValue value) : value ≠ "" := by
  rintro rfl
  obtain ⟨first, rest, isFirst, _⟩ := label.begins
  cases isFirst

/-- The value of a label has few bytes. -/
theorem utf8ByteSize_le (label : LabelValue value) : value.utf8ByteSize ≤ 252 :=
  Nat.le_trans (Text.utf8ByteSize_le value) (Nat.mul_le_mul_left 4 label.short)

/-- The characters of the value of a label may stand in a term. -/
theorem inValue (label : LabelValue value) : ∀ c ∈ value.toList, SelectorTerm.inValue c := by
  intro c isIn
  rw [SelectorTerm.inValue, Bool.or_eq_true, decide_eq_true_iff]
  exact label.each c isIn

end LabelValue

namespace SelectorTerm

variable {name value : String}

/-- Whether a term can be about a name. -/
structure IsName (name : String) : Prop where
  each : ∀ c ∈ name.toList, inName c
  ne_empty : name ≠ ""

instance (name : String) : Decidable (IsName name) :=
  decidable_of_iff (name.toList.all inName ∧ name ≠ "")
    ⟨fun ⟨each, ne_empty⟩ => ⟨List.all_eq_true.1 each, ne_empty⟩,
      fun ⟨each, ne_empty⟩ => ⟨List.all_eq_true.2 each, ne_empty⟩⟩

/-- An equals sign before a plain value is the operator that asks for it. -/
theorem operator?_equal {value : List Char} (plain : ∀ c ∈ value, inValue c) :
    operator? ('=' :: value) = some (true, value) := by
  cases value with
  | nil => rfl
  | cons c rest =>
    have differs : c ≠ '=' := by
      rintro rfl
      exact absurd (plain '=' List.mem_cons_self) (by decide)
    rw [operator?]
    rintro _ ⟨⟩
    exact differs rfl

/-- That a name is to have a value is read from the text that says so. -/
theorem parse?_equal (isName : IsName name) (plain : ∀ c ∈ value.toList, inValue c) :
    parse? (name ++ "=" ++ value).toList = some ⟨name, value, true⟩ := by
  have isText : (name ++ "=" ++ value).toList = name.toList ++ '=' :: value.toList := by
    simp
  have ends : ¬ inName '=' := by decide
  have nonempty : name.toList ≠ [] := by
    rw [ne_eq, String.toList_eq_nil_iff]
    exact isName.ne_empty
  unfold parse?
  rw [isText, List.takeWhile_append_of_pos isName.each, List.dropWhile_append_of_pos isName.each,
    List.takeWhile_cons_of_neg ends, List.dropWhile_cons_of_neg ends, List.append_nil,
    operator?_equal plain]
  simp only
  rw [if_pos ⟨nonempty, List.all_eq_true.2 plain⟩, String.ofList_toList, String.ofList_toList]

end SelectorTerm

/-- A selector that asks for a plain value of a name admits just what has that value. -/
theorem Selector.admits_equal {name value : String} (isName : SelectorTerm.IsName name)
    (plain : ∀ c ∈ value.toList, SelectorTerm.inValue c) (met : SelectorTerm → Prop) :
    Selector.Admits (name ++ "=" ++ value) met ↔ met ⟨name, value, true⟩ := by
  have single : ',' ∉ (name ++ "=" ++ value).toList := by
    intro isIn
    rw [String.toList_append, String.toList_append, List.mem_append, List.mem_append] at isIn
    rcases isIn with (isIn | isIn) | isIn
    · exact absurd (isName.each ',' isIn) (by decide)
    · exact absurd isIn (by decide)
    · exact absurd (plain ',' isIn) (by decide)
  have nonempty : name ++ "=" ++ value ≠ "" := by
    rw [ne_eq, ← String.toList_eq_nil_iff]
    simp
  have reads : Selector.parse? (name ++ "=" ++ value) = some [⟨name, value, true⟩] := by
    rw [Selector.parse?, if_neg nonempty, List.splitOn_eq_singleton single, List.mapM_cons,
      SelectorTerm.parse?_equal isName plain]
    rfl
  constructor
  · rintro ⟨terms, isRead, all⟩
    cases reads.symm.trans isRead
    exact all _ List.mem_cons_self
  · exact fun holds => ⟨_, reads, List.forall_mem_singleton.2 holds⟩

end PeerFirewall
