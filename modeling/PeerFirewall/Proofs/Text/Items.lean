import Mathlib.Data.List.TakeWhile
import PeerFirewall.Text.Blank

/-!
# The items of a list

A list on the command line is a text with commas in it. Everything about its items follows from two
facts: the items of two lists with a comma between them are those of the first one and then those of
the second one (`listItems_append`), and a text without a comma has one item or none
(`listItems_padded`, `listItems_blank`). So what is laid out with white space and blank pieces is
read as it was meant (`Lays.listItems`).
-/
namespace PeerFirewall.Text

/-- Whether a text holds nothing but white space. -/
def IsBlank (text : String) : Prop := ∀ c ∈ text.toList, isBlank c

/-- Whether a text can be an item: it is not empty and has neither commas nor white space. -/
structure IsItem (text : String) : Prop where
  ne_empty : text ≠ ""
  each : ∀ c ∈ text.toList, c ≠ ',' ∧ isBlank c = false

instance (text : String) : Decidable (IsBlank text) :=
  decidable_of_iff (text.toList.all isBlank) List.all_eq_true

instance (text : String) : Decidable (IsItem text) :=
  decidable_of_iff (text ≠ "" ∧ text.toList.all fun c => c ≠ ',' && !isBlank c) (by
    simp only [List.all_eq_true, Bool.and_eq_true, decide_eq_true_eq, Bool.not_eq_true']
    exact ⟨fun ⟨ne_empty, each⟩ => ⟨ne_empty, each⟩, fun ⟨ne_empty, each⟩ => ⟨ne_empty, each⟩⟩)

/-! ### Pieces -/

/-- The pieces of a text are what its commas split it into. -/
theorem pieces_eq_splitOn (text : List Char) : pieces text = text.splitOn ',' := by
  induction text with
  | nil => rfl
  | cons c rest ih =>
    rw [pieces, List.splitOn_cons_eq_if_modifyHead, ih]
    by_cases isComma : c = ','
    · simp [isComma]
    · simp only [isComma, if_false, beq_iff_eq]
      cases isSplit : rest.splitOn ',' with
      | nil => exact absurd isSplit (List.splitOn_ne_nil ',' rest)
      | cons piece others => rfl

/-- The item that a piece holds, unless it is blank. -/
def item? (piece : List Char) : Option String :=
  if (trim piece).isEmpty then none else some (String.ofList (trim piece))

/-- The items of a list are those that its pieces hold. -/
theorem listItems_eq (text : String) :
    listItems text = (text.toList.splitOn ',').filterMap item? := by
  rw [listItems, pieces_eq_splitOn, List.filterMap_map]
  rfl

/-- The items of two lists with a comma between them. -/
theorem listItems_append (text other : String) :
    listItems (text ++ "," ++ other) = listItems text ++ listItems other := by
  have split : (text ++ "," ++ other).toList.splitOn ',' =
      text.toList.splitOn ',' ++ other.toList.splitOn ',' := by
    have isText : (text ++ "," ++ other).toList = text.toList ++ ',' :: other.toList := by simp
    rw [isText, List.splitOn_append_cons_self]
  simp only [listItems_eq, split, List.filterMap_append]

/-- The items of a list without commas. -/
theorem listItems_of_single {text : String} (single : ',' ∉ text.toList) :
    listItems text = (item? text.toList).toList := by
  rw [listItems_eq, List.splitOn_eq_singleton single]
  cases h : item? text.toList <;> simp [h]

/-! ### White space -/

/-- A comma is no white space. -/
theorem comma_notMem_of_isBlank {text : String} (blank : IsBlank text) : ',' ∉ text.toList :=
  fun member => absurd (blank ',' member) (by decide)

/-- Nothing is left of white space that is trimmed. -/
theorem trim_blank {text : List Char} (blank : ∀ c ∈ text, isBlank c) : trim text = [] := by
  rw [trim, List.dropWhile_eq_nil_iff.2 blank]
  rfl

/-- Nothing is taken from the front of what begins with no white space. -/
theorem dropWhile_filled {text rest : List Char} (filled : ∀ c ∈ text, isBlank c = false)
    (ne_nil : text ≠ []) : (text ++ rest).dropWhile isBlank = text ++ rest := by
  cases text with
  | nil => exact absurd rfl ne_nil
  | cons c others =>
    exact List.dropWhile_cons_of_neg (Bool.eq_false_iff.1 (filled c List.mem_cons_self))

/-- White space around something else is trimmed. -/
theorem trim_padded {before text after : List Char} (blankBefore : ∀ c ∈ before, isBlank c)
    (filled : ∀ c ∈ text, isBlank c = false) (blankAfter : ∀ c ∈ after, isBlank c)
    (ne_nil : text ≠ []) : trim (before ++ text ++ after) = text := by
  have leading : (before ++ text ++ after).dropWhile isBlank = text ++ after := by
    rw [List.append_assoc, List.dropWhile_append_of_pos blankBefore]
    exact dropWhile_filled filled ne_nil
  have trailing : (text ++ after).reverse.dropWhile isBlank = text.reverse := by
    rw [List.reverse_append, List.dropWhile_append_of_pos fun c isIn =>
      blankAfter c (List.mem_reverse.1 isIn)]
    have still : (text.reverse ++ []).dropWhile isBlank = text.reverse ++ [] :=
      dropWhile_filled (fun c isIn => filled c (List.mem_reverse.1 isIn))
        (List.reverse_ne_nil_iff.2 ne_nil)
    rwa [List.append_nil] at still
  rw [trim, leading, trailing, List.reverse_reverse]

/-- A text of nothing but white space has no items. -/
theorem listItems_blank {text : String} (blank : IsBlank text) : listItems text = [] := by
  rw [listItems_of_single (comma_notMem_of_isBlank blank), item?, trim_blank blank]
  rfl

/-- A text with one item and white space around it has this item. -/
theorem listItems_padded {before text after : String} (blankBefore : IsBlank before)
    (isItem : IsItem text) (blankAfter : IsBlank after) :
    listItems (before ++ text ++ after) = [text] := by
  have isText : (before ++ text ++ after).toList =
      before.toList ++ text.toList ++ after.toList := by
    rw [String.toList_append, String.toList_append]
  have single : ',' ∉ (before ++ text ++ after).toList := by
    rw [isText, List.mem_append, List.mem_append]
    rintro ((isIn | isIn) | isIn)
    · exact comma_notMem_of_isBlank blankBefore isIn
    · exact (isItem.each _ isIn).1 rfl
    · exact comma_notMem_of_isBlank blankAfter isIn
  have ne_nil : text.toList ≠ [] := by
    rw [ne_eq, String.toList_eq_nil_iff]
    exact isItem.ne_empty
  have trimmed : trim (before ++ text ++ after).toList = text.toList := by
    rw [isText]
    exact trim_padded blankBefore (fun c isIn => (isItem.each c isIn).2) blankAfter ne_nil
  rw [listItems_of_single single, item?, trimmed, if_neg (by simpa using ne_nil),
    String.ofList_toList]
  rfl

/-! ### Layouts -/

/-- Whether the pieces of a list lay out items: in order, with any white space around them and any
blank pieces before, between and behind them. -/
inductive Lays : List String → List String → Prop
  | nil : Lays [] []
  | blank {piece : String} {pieces items : List String} (isBlank : IsBlank piece)
      (rest : Lays pieces items) : Lays (piece :: pieces) items
  | item {before item after : String} {pieces items : List String} (blankBefore : IsBlank before)
      (blankAfter : IsBlank after) (rest : Lays pieces items) :
      Lays ((before ++ item ++ after) :: pieces) (item :: items)

/-- The items of pieces with commas between them. -/
theorem listItems_intercalate (pieces : List String) :
    listItems (",".intercalate pieces) = pieces.flatMap listItems := by
  induction pieces with
  | nil => rfl
  | cons piece rest ih =>
    cases rest with
    | nil => rw [String.intercalate_singleton, List.flatMap_singleton]
    | cons next others =>
      rw [String.intercalate_cons_cons, listItems_append, ih]
      exact List.flatMap_cons.symm

/-- What is laid out is read. -/
theorem Lays.listItems {pieces items : List String} (lays : Lays pieces items)
    (each : ∀ item ∈ items, IsItem item) : listItems (",".intercalate pieces) = items := by
  rw [listItems_intercalate]
  induction lays with
  | nil => rfl
  | blank isBlank _ ih => rw [List.flatMap_cons, listItems_blank isBlank, ih each, List.nil_append]
  | item blankBefore blankAfter _ ih =>
    obtain ⟨isItem, others⟩ := List.forall_mem_cons.1 each
    rw [List.flatMap_cons, listItems_padded blankBefore isItem blankAfter, ih others,
      List.singleton_append]

end PeerFirewall.Text
