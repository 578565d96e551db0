import Mathlib.Computability.RegularExpressions
import Mathlib.Data.String.Basic
import PeerFirewall.Validation

/-!
# Names of namespaces

A namespace is named by a label of the DNS, as the grammar of host names has it: at most 63 small
letters, digits and hyphens, at least one of them, a hyphen neither first nor last (`DnsLabel`). The
check of a name by its characters and its bytes is just that (`isDnsLabel_iff`), and so is the
pattern that definitions of kinds give for labels, with a bound for the bytes
(`dnsLabel_iff_pattern`).
-/
namespace PeerFirewall

/-- The small letters and the digits. -/
def labelAlphabet : List Char := "abcdefghijklmnopqrstuvwxyz0123456789".toList

/-- Whether a text is a label of the DNS. -/
structure DnsLabel (name : String) : Prop where
  short : name.length ≤ 63
  begins : ∃ first rest, name.toList = first :: rest ∧ first ∈ labelAlphabet
  ends : ∃ front last, name.toList = front ++ [last] ∧ last ∈ labelAlphabet
  each : ∀ c ∈ name.toList, c ∈ labelAlphabet ∨ c = '-'

/-- A label of the DNS is not empty. -/
theorem DnsLabel.ne_empty {name : String} (label : DnsLabel name) : name ≠ "" := by
  rintro rfl
  obtain ⟨first, rest, isFirst, _⟩ := label.begins
  cases isFirst

/-- The characters that may begin or end a label are the small letters and the digits. -/
theorem isLabelEnd_iff (c : Char) : isLabelEnd c ↔ c ∈ labelAlphabet := by
  have listed : ∀ n < 123, isLabelEnd (Char.ofNat n) → Char.ofNat n ∈ labelAlphabet := by
    decide
  have ranged : labelAlphabet.all isLabelEnd := by decide
  constructor
  · intro isEnd
    have bound : c.toNat < 123 := by
      simp only [isLabelEnd, Bool.or_eq_true, Bool.and_eq_true, decide_eq_true_eq, Char.le_def,
        UInt32.le_iff_toNat_le] at isEnd
      change c.val.toNat < 123
      have z : ('z' : Char).val.toNat = 122 := rfl
      have nine : ('9' : Char).val.toNat = 57 := rfl
      omega
    rw [← Char.ofNat_toNat c] at isEnd ⊢
    exact listed c.toNat bound isEnd
  · exact List.all_eq_true.1 ranged c

/-- The characters of labels. -/
theorem isLabelChar_iff (c : Char) : isLabelChar c ↔ c ∈ labelAlphabet ∨ c = '-' := by
  rw [isLabelChar, Bool.or_eq_true, isLabelEnd_iff, decide_eq_true_eq]

/-- The characters of labels have one byte each. -/
theorem utf8Len_of_labelChars {chars : List Char} (each : ∀ c ∈ chars, isLabelChar c) :
    String.utf8Len chars = chars.length := by
  have small : ('-' :: labelAlphabet).all (·.utf8Size = 1) := by decide
  induction chars with
  | nil => rfl
  | cons c rest ih =>
    obtain ⟨first, others⟩ := List.forall_mem_cons.1 each
    have one : c.utf8Size = 1 := by
      refine of_decide_eq_true (List.all_eq_true.1 small c (List.mem_cons.2 ?_))
      exact ((isLabelChar_iff c).1 first).symm
    rw [String.utf8Len_cons, ih others, one, List.length_cons]

/-- Every character of a label is one of those of labels. -/
theorem DnsLabel.isLabelChar {name : String} (label : DnsLabel name) :
    ∀ c ∈ name.toList, PeerFirewall.isLabelChar c :=
  fun c member => (isLabelChar_iff c).2 (label.each c member)

/-- The check of a name lets through just the labels of the DNS. -/
theorem isDnsLabel_iff (name : String) : isDnsLabel name ↔ DnsLabel name := by
  simp only [isDnsLabel, Bool.and_eq_true, decide_eq_true_eq, List.all_eq_true, Option.any_eq_true]
  constructor
  · intro checked
    obtain ⟨⟨⟨short, first, isFirst, begins⟩, last, isLast, ends⟩, each⟩ := checked
    constructor
    case short => rwa [← String.utf8Len_toList, utf8Len_of_labelChars each] at short
    case begins =>
      obtain ⟨rest, isRest⟩ := List.head?_eq_some_iff.1 isFirst
      exact ⟨first, rest, isRest, (isLabelEnd_iff first).1 begins⟩
    case ends =>
      obtain ⟨front, isFront⟩ := List.getLast?_eq_some_iff.1 isLast
      exact ⟨front, last, isFront, (isLabelEnd_iff last).1 ends⟩
    case each => exact fun c member => (isLabelChar_iff c).1 (each c member)
  · intro label
    obtain ⟨first, rest, isFirst, begins⟩ := label.begins
    obtain ⟨front, last, isLast, ends⟩ := label.ends
    refine ⟨⟨⟨?_, first, ?_, (isLabelEnd_iff first).2 begins⟩, last, ?_,
      (isLabelEnd_iff last).2 ends⟩, label.isLabelChar⟩
    · rw [← String.utf8Len_toList, utf8Len_of_labelChars label.isLabelChar]
      exact label.short
    · rw [isFirst, List.head?_cons]
    · rw [isLast, List.getLast?_concat]

/-- A label has no character but those of labels: none of another script, no large letter, and
nothing that ends a line. -/
theorem DnsLabel.plain {name : String} (label : DnsLabel name) :
    ∀ c ∈ name.toList, c.toNat < 128 ∧ c.isUpper = false ∧ c ≠ '\n' := by
  have listed : ('-' :: labelAlphabet).all
      fun c => decide (c.toNat < 128 ∧ c.isUpper = false ∧ c ≠ '\n') := by
    decide
  intro c member
  refine of_decide_eq_true (List.all_eq_true.1 listed c (List.mem_cons.2 ?_))
  exact (label.each c member).symm

/-! ### Labels by a pattern -/

/-- The pattern of one of some characters. -/
def anyOf (chars : List Char) : RegularExpression Char := (chars.map .char).sum

/-- The pattern of labels: a small letter or a digit and, where that is not all, any characters of
labels up to another small letter or digit. -/
def labelPattern : RegularExpression Char :=
  anyOf labelAlphabet * (1 + (anyOf ('-' :: labelAlphabet)).star * anyOf labelAlphabet)

/-- One of some characters is matched by itself. -/
theorem mem_anyOf {chars text : List Char} :
    text ∈ (anyOf chars).matches' ↔ ∃ c ∈ chars, text = [c] := by
  induction chars with
  | nil => simp [anyOf, Language.notMem_zero]
  | cons c rest ih =>
    have first : text ∈ ({[c]} : Language Char) ↔ text = [c] := Iff.rfl
    rw [anyOf] at ih
    simp [anyOf, Language.mem_add, ih, first]

/-- Any number of some characters is matched by texts of these characters. -/
theorem mem_star_anyOf {chars text : List Char} :
    text ∈ (anyOf chars).star.matches' ↔ ∀ c ∈ text, c ∈ chars := by
  rw [RegularExpression.matches'_star, Language.mem_kstar]
  constructor
  · rintro ⟨parts, rfl, each⟩ c member
    obtain ⟨part, isPart, inPart⟩ := List.mem_flatten.1 member
    obtain ⟨only, isChar, rfl⟩ := mem_anyOf.1 (each part isPart)
    rwa [List.mem_singleton.1 inPart]
  · intro each
    refine ⟨text.map fun c => [c], ?_, ?_⟩
    · rw [← List.flatMap_def, List.flatMap_singleton']
    · intro part isPart
      obtain ⟨c, member, rfl⟩ := List.mem_map.1 isPart
      exact mem_anyOf.2 ⟨c, each c member, rfl⟩

/-- The pattern of labels matches what begins and ends as labels do and has nothing else in
between. -/
theorem mem_labelPattern {text : List Char} :
    text ∈ labelPattern.matches' ↔ ∃ first ∈ labelAlphabet,
      text = [first] ∨ ∃ between, (∀ c ∈ between, c ∈ '-' :: labelAlphabet) ∧
        ∃ last ∈ labelAlphabet, text = first :: (between ++ [last]) := by
  simp only [labelPattern, RegularExpression.matches'_mul, RegularExpression.matches'_add,
    RegularExpression.matches'_epsilon, Language.mem_mul, Language.mem_add, Language.mem_one,
    mem_anyOf, mem_star_anyOf]
  constructor
  · rintro ⟨_, ⟨first, begins, rfl⟩, _, rfl | ⟨between, inside, _, ⟨last, ends, rfl⟩, rfl⟩, rfl⟩
    · exact ⟨first, begins, .inl rfl⟩
    · exact ⟨first, begins, .inr ⟨between, inside, last, ends, rfl⟩⟩
  · rintro ⟨first, begins, rfl | ⟨between, inside, last, ends, rfl⟩⟩
    · exact ⟨_, ⟨first, begins, rfl⟩, [], .inl rfl, rfl⟩
    · exact ⟨_, ⟨first, begins, rfl⟩, _, .inr ⟨between, inside, _, ⟨last, ends, rfl⟩, rfl⟩, rfl⟩

/-- A text is a label just where the pattern of labels matches the whole of it and it has no more
than 63 bytes. -/
theorem dnsLabel_iff_pattern (name : String) :
    DnsLabel name ↔ name.utf8ByteSize ≤ 63 ∧ name.toList ∈ labelPattern.matches' := by
  rw [mem_labelPattern, ← String.utf8Len_toList]
  constructor
  · intro label
    obtain ⟨first, rest, isFirst, begins⟩ := label.begins
    obtain ⟨front, last, isLast, ends⟩ := label.ends
    refine ⟨(utf8Len_of_labelChars label.isLabelChar).trans_le label.short, first, begins, ?_⟩
    cases front with
    | nil =>
      rw [isFirst] at isLast ⊢
      exact .inl (by rw [(List.cons.inj isLast).2])
    | cons _ between =>
      obtain ⟨rfl, -⟩ := List.cons.inj (isFirst.symm.trans isLast)
      refine .inr ⟨between, fun c inside => ?_, last, ends, isLast⟩
      have member : c ∈ name.toList := by
        rw [isLast]
        exact List.mem_cons_of_mem _ (List.mem_append_left _ inside)
      exact List.mem_cons.2 (label.each c member).symm
  · rintro ⟨short, first, begins, isOne | ⟨between, inside, last, ends, isMore⟩⟩
    · refine ⟨?_, ⟨first, [], isOne, begins⟩, ⟨[], first, isOne, begins⟩, ?_⟩
      · rw [← String.length_toList, isOne, List.length_singleton]
        decide
      · rw [isOne]
        exact List.forall_mem_singleton.2 (.inl begins)
    · have each : ∀ c ∈ name.toList, c ∈ labelAlphabet ∨ c = '-' := by
        rw [isMore, List.forall_mem_cons, List.forall_mem_append, List.forall_mem_singleton]
        exact ⟨.inl begins, fun c member => (List.mem_cons.1 (inside c member)).symm, .inl ends⟩
      refine ⟨?_, ⟨first, _, isMore, begins⟩, ⟨first :: between, last, isMore, ends⟩, each⟩
      rwa [utf8Len_of_labelChars fun c member => (isLabelChar_iff c).2 (each c member),
        String.length_toList] at short

end PeerFirewall
