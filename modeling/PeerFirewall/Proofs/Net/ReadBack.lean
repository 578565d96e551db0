import Mathlib.Data.List.Basic
import PeerFirewall.Proofs.Net.CidrText

/-!
# Networks are read back from their text

A number that is written in decimal is read back from the front of a text, as far as no digit
follows it (`Reader.number_toDigits`); so are the octets of an address, and a network of version 4
from its text (`Cidr.parse?_text`). Reading a network of version 4 passes over no colon
(`Cidr.colon_notMem_of_parseV4?`), so no text of a network of version 6 is taken for one.
-/
namespace PeerFirewall.Net

namespace Reader

/-! ### Numbers -/

/-- Whether a number that stands before a text ends there. -/
def EndsNumber (rest : List Char) : Prop := ∀ c ∈ rest.head?, c.isDigit = false

/-- The decimal digits are the digits in base ten. -/
theorem digit_ten (c : Char) :
    digit 10 c = if c.isDigit then some (c.toNat - '0'.toNat) else none := by
  unfold digit
  by_cases isDigit : c.isDigit
  · have bounds : 48 ≤ c.val ∧ c.val ≤ 57 := by simpa [Char.isDigit] using isDigit
    have high : c.toNat ≤ 57 := UInt32.le_iff_toNat_le.1 bounds.2
    have small : c.toNat - '0'.toNat < 10 := Nat.sub_lt_left_of_lt_add
      (UInt32.le_iff_toNat_le.1 bounds.1) (Nat.lt_succ_of_le high)
    simp only [isDigit, if_true, small]
  · -- The values of the other digits, and what stands for no digit, are ten and more.
    simp only [isDigit, if_false, Bool.false_eq_true]
    refine if_neg (Nat.not_lt.2 ?_)
    split
    · exact Nat.le_add_left 10 _
    · split
      · exact Nat.le_add_left 10 _
      · exact Nat.le_refl 10

/-- The digits of a text that begins with some are those, as far as no digit follows. -/
theorem digits_append {front rest : List Char} (each : ∀ c ∈ front, c.isDigit)
    (ends : EndsNumber rest) :
    digits 10 (front ++ rest) = front.map fun c => c.toNat - '0'.toNat := by
  have isSome : (fun c => (digit 10 c).isSome) = Char.isDigit := by
    funext c
    rw [digit_ten]
    cases c.isDigit <;> rfl
  have stops : rest.takeWhile Char.isDigit = [] := by
    cases rest with
    | nil => rfl
    | cons c others => exact List.takeWhile_cons_of_neg (Bool.eq_false_iff.1 (ends c rfl))
  rw [digits, isSome, List.takeWhile_append_of_pos each, stops, List.append_nil,
    ← List.filterMap_eq_map]
  refine List.filterMap_congr fun c isIn => ?_
  rw [digit_ten, if_pos (each c isIn)]
  rfl

/-- A number that is written in decimal is read back. -/
theorem number_toDigits {most bound n : Nat} {rest : List Char}
    (short : (Nat.toDigits 10 n).length ≤ most) (small : n < bound) (ends : EndsNumber rest) :
    number 10 most bound (Nat.toDigits 10 n ++ rest) = some (n, rest) := by
  have each : ∀ c ∈ Nat.toDigits 10 n, c.isDigit := fun c =>
    Nat.isDigit_of_mem_toDigits (by decide) (by decide)
  have value : ((Nat.toDigits 10 n).map fun c => c.toNat - '0'.toNat).foldl
      (fun n d => 10 * n + d) 0 = n := by
    rw [List.foldl_map]
    exact Nat.ofDigitChars_ten_toDigits
  rw [number, digits_append each ends]
  simp only [value, List.isEmpty_iff, List.map_eq_nil_iff, List.length_map, Nat.toDigits_ne_nil,
    false_or]
  rw [if_neg (by omega), List.drop_left]

/-! ### Addresses -/

/-- What begins with a character that is no digit ends a number. -/
theorem endsNumber_cons {c : Char} {rest : List Char} (noDigit : c.isDigit = false) :
    EndsNumber (c :: rest) := by
  rintro _ ⟨⟩
  exact noDigit

/-- A character is read that is there. -/
theorem char_cons (c : Char) (rest : List Char) : char c (c :: rest) = some rest := if_pos rfl

/-- An octet is read back. -/
theorem octet_toDigits (n : UInt8) {rest : List Char} (ends : EndsNumber rest) :
    octet .lenient (Nat.toDigits 10 n.toNat ++ rest) = some (n, rest) := by
  have small : n.toNat < 256 := n.toNat_lt
  have reads : number 10 3 256 (Nat.toDigits 10 n.toNat ++ rest) = some (n.toNat, rest) :=
    number_toDigits ((Nat.length_toDigits_le_iff (by decide) (by decide)).2 (by omega)) small ends
  simp [octet, reads]

/-- An address of version 4 is read back. -/
theorem ipv4_text (address : Ipv4) {rest : List Char} (ends : EndsNumber rest) :
    ipv4 .lenient (address.text.toList ++ rest) = some (address, rest) := by
  have point (others : List Char) : EndsNumber ('.' :: others) := endsNumber_cons (by decide)
  have isText : address.text.toList ++ rest =
      Nat.toDigits 10 address.a.toNat ++ '.' :: (Nat.toDigits 10 address.b.toNat ++
        '.' :: (Nat.toDigits 10 address.c.toNat ++
          '.' :: (Nat.toDigits 10 address.d.toNat ++ rest))) := by
    simp [Ipv4.text, decimalText]
  rw [isText]
  simp [ipv4, octet_toDigits, point, ends, char_cons]

/-! ### What is passed over -/

section

variable {text rest : List Char}

/-- The characters that a number is read from are digits. -/
theorem isDigit_of_mem_takeWhile {base : Nat} {text : List Char} :
    ∀ c ∈ text.takeWhile fun c => (digit base c).isSome, (digit base c).isSome :=
  List.all_eq_true.1 List.all_takeWhile

/-- There are as many digits as characters that are digits. -/
theorem length_digits (base : Nat) (text : List Char) :
    (digits base text).length = (text.takeWhile fun c => (digit base c).isSome).length := by
  rw [digits, List.length_filterMap_eq_countP, List.countP_eq_length]
  exact isDigit_of_mem_takeWhile

/-- Reading a number passes over no colon. -/
theorem number_keeps {most bound value : Nat}
    (reads : number 10 most bound text = some (value, rest)) (colon : ':' ∈ text) :
    ':' ∈ rest := by
  simp only [number, Option.ite_none_left_eq_some, Option.some.injEq, Prod.mk.injEq] at reads
  obtain ⟨_, _, rfl⟩ := reads
  obtain ⟨left, whole⟩ := List.takeWhile_prefix (l := text) fun c => (digit 10 c).isSome
  have isLeft : (text.takeWhile (fun c => (digit 10 c).isSome) ++ left).drop
      (digits 10 text).length = left := List.drop_left' (length_digits 10 text).symm
  rw [whole] at isLeft
  rw [isLeft]
  rw [← whole] at colon
  exact (List.mem_append.1 colon).resolve_left fun taken =>
    absurd (isDigit_of_mem_takeWhile _ taken) (by decide)

/-- Reading another character than a colon passes over no colon. -/
theorem char_keeps {c : Char} (other : c ≠ ':') (reads : char c text = some rest)
    (colon : ':' ∈ text) : ':' ∈ rest := by
  cases text with
  | nil => cases reads
  | cons d others =>
    simp only [char, Option.ite_none_right_eq_some, Option.some.injEq] at reads
    obtain ⟨rfl, rfl⟩ := reads
    exact (List.mem_cons.1 colon).resolve_left fun same => other same.symm

/-- Reading an octet passes over no colon. -/
theorem octet_keeps {strictness : Strictness} {octet : UInt8}
    (reads : Reader.octet strictness text = some (octet, rest)) (colon : ':' ∈ text) :
    ':' ∈ rest := by
  simp only [Reader.octet, Option.bind_eq_bind, Option.bind_eq_some_iff, Prod.exists] at reads
  obtain ⟨value, behind, reads, ends⟩ := reads
  split at ends
  · cases ends
  · cases ends
    exact number_keeps reads colon

/-- Reading an address of version 4 passes over no colon. -/
theorem ipv4_keeps {strictness : Strictness} {address : Ipv4}
    (reads : ipv4 strictness text = some (address, rest)) (colon : ':' ∈ text) : ':' ∈ rest := by
  simp only [ipv4, Option.bind_eq_bind, Option.bind_eq_some_iff, Prod.exists] at reads
  obtain ⟨_, _, readsA, _, pointA, _, _, readsB, _, pointB, _, _, readsC, _, pointC, _, _, readsD,
    ends⟩ := reads
  cases ends
  have noColon : '.' ≠ ':' := by decide
  have behindA := char_keeps noColon pointA (octet_keeps readsA colon)
  have behindB := char_keeps noColon pointB (octet_keeps readsB behindA)
  have behindC := char_keeps noColon pointC (octet_keeps readsC behindB)
  exact octet_keeps readsD behindC

end

end Reader

namespace Cidr

open Reader (EndsNumber endsNumber_cons)

/-- The length of a network part is read back. -/
theorem readLength_toDigits (most : Nat) {bound : Nat} (length : Fin (bound + 1))
    (short : (Nat.toDigits 10 length.val).length ≤ most) :
    readLength most bound ('/' :: Nat.toDigits 10 length.val) = some length := by
  have nothing : EndsNumber [] := nofun
  have reads : Reader.number 10 most (bound + 1) (Nat.toDigits 10 length.val) =
      some (length.val, []) := by
    rw [← Reader.number_toDigits short length.isLt nothing, List.append_nil]
  rw [readLength, Reader.char_cons, Option.bind_eq_bind, Option.bind_some, reads]
  exact dif_pos ⟨rfl, length.isLt⟩

/-- A network of version 4 is read back from its text. -/
theorem parse?_text {network : Cidr} (isV4 : network.isV4 = true) :
    parse? network.text = some network := by
  cases network with
  | v6 => cases isV4
  | v4 address length =>
    have isText : (v4 address length).text.toList =
        address.text.toList ++ ('/' :: Nat.toDigits 10 length.val) := by
      simp [text, decimalText]
    have reads : Reader.ipv4 .lenient (v4 address length).text.toList =
        some (address, '/' :: Nat.toDigits 10 length.val) := by
      rw [isText]
      exact Reader.ipv4_text address (endsNumber_cons (by decide))
    have short : (Nat.toDigits 10 length.val).length ≤ 2 :=
      (Nat.length_toDigits_le_iff (by decide) (by decide)).2 (Nat.lt_trans length.isLt (by decide))
    have readsLength := readLength_toDigits 2 length short
    simp [parse?, parseV4?, reads, readsLength]

/-- What is read as a network of version 4 has no colon. -/
theorem colon_notMem_of_parseV4? {chars : List Char} {network : Cidr}
    (reads : parseV4? chars = some network) : ':' ∉ chars := by
  intro colon
  simp only [parseV4?, readLength, Option.bind_eq_bind, Option.bind_eq_some_iff, Prod.exists]
    at reads
  obtain ⟨_, _, readsAddress, _, ⟨_, slash, _, _, readsLength, ends⟩, _⟩ := reads
  have kept := Reader.number_keeps readsLength
    (Reader.char_keeps (by decide) slash (Reader.ipv4_keeps readsAddress colon))
  split at ends
  · rename_i atEnd
    rw [atEnd.1] at kept
    cases kept
  · cases ends

/-- The text of a network of version 6 is not read as a network of version 4. -/
theorem isV4_of_parse?_text {network other : Cidr} (isV6 : network.isV4 = false)
    (reads : parse? network.text = some other) : other.isV4 = false := by
  unfold parse? at reads
  split at reads
  · exact absurd ((colon_mem_text_iff network).2 isV6) (colon_notMem_of_parseV4? ‹_›)
  · simp only [parseV6?, Option.bind_eq_bind, Option.bind_eq_some_iff, Prod.exists] at reads
    obtain ⟨_, _, _, _, _, ends⟩ := reads
    cases ends
    rfl

end Cidr

end PeerFirewall.Net
