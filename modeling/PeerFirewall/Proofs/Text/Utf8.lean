import Mathlib.Tactic.SplitIfs
import PeerFirewall.Text.Utf8

/-!
# The text of the bytes of a text

The bytes of a text are those of its characters one after the other (`utf8Bytes_eq`), and each
character is read back from its own (`charsOfBytes_encode`). So the text of the bytes of a text is
the text (`ofBytes_utf8Bytes`). The bytes of a lower character stand before those of a higher one
(`encode_lt_encode`), so texts are in the order of their bytes (`utf8Bytes_le_iff`).
-/
namespace PeerFirewall.Text

/-- A list of bytes is collected from the first one that is left. -/
theorem toList_loop_eq (bytes : ByteArray) (i : Nat) (seen : List UInt8) :
    ByteArray.toList.loop bytes i seen = seen.reverse ++ bytes.data.toList.drop i := by
  fun_induction ByteArray.toList.loop bytes i seen with
  | case1 i seen inside ih =>
    have isNext : bytes.data.toList.drop i = bytes.get! i :: bytes.data.toList.drop (i + 1) := by
      have found : bytes.get! i = bytes.data[i] := getElem!_pos bytes.data i inside
      rw [found, ← Array.getElem_toList]
      exact List.drop_eq_getElem_cons inside
    rw [ih, isNext, List.reverse_cons, List.append_assoc, List.singleton_append]
  | case2 i seen outside =>
    rw [List.drop_eq_nil_of_le (Nat.le_of_not_lt outside), List.append_nil]

/-- The bytes of a text are those that it is made of. -/
theorem utf8Bytes_eq_data (text : String) : utf8Bytes text = text.toByteArray.data.toList := by
  rw [utf8Bytes, String.toUTF8, ByteArray.toList, toList_loop_eq]
  rfl

/-- A text has as many bytes as its size says. -/
theorem length_utf8Bytes (text : String) : (utf8Bytes text).length = text.utf8ByteSize := by
  rw [utf8Bytes_eq_data]
  rfl

/-- The bytes of characters are those of each of them. -/
theorem utf8Bytes_ofList (chars : List Char) :
    utf8Bytes (String.ofList chars) = chars.flatMap String.utf8EncodeChar := by
  rw [utf8Bytes_eq_data, String.toByteArray_ofList, List.utf8Encode, List.toList_data_toByteArray]

/-- The bytes of a text are those of its characters. -/
theorem utf8Bytes_eq (text : String) :
    utf8Bytes text = text.toList.flatMap String.utf8EncodeChar := by
  rw [← utf8Bytes_ofList, String.ofList_toList]

/-- A number below 256 is that of a byte. -/
theorem toNat_byte {n : Nat} (small : n < 256) : (UInt8.ofNat n).toNat = n :=
  UInt8.toNat_ofNat_of_lt' small

/-- A byte that may follow the first one of a character is a part of its number. -/
theorem continuation_byte {following low high bits n : Nat} {rest : List UInt8} (small : n < 64)
    (within : low ≤ n + 128 ∧ n + 128 ≤ high) :
    continuation (following + 1) low high bits (UInt8.ofNat (n + 128) :: rest) =
      continuation following 0x80 0xbf (bits * 64 + n) rest := by
  have isPart : (n + 128) % 64 = n := by omega
  rw [continuation, toNat_byte (by omega), if_pos within, isPart]

/-- The first byte of a character of several bytes says how those that follow are read. -/
theorem charsOfBytes_lead {fuel n : Nat} {rest left : List UInt8} {lead : LeadByte} {c : Char}
    (small : n < 256) (isLead : LeadByte.of? n = some lead)
    (continues : continuation lead.following lead.low lead.high lead.bits rest = (c, left)) :
    charsOfBytes (fuel + 1) (UInt8.ofNat n :: rest) = c :: charsOfBytes fuel left := by
  have high : ¬ n < 0x80 := by
    intro low
    unfold LeadByte.of? at isLead
    grind
  rw [charsOfBytes, toNat_byte small, if_neg high, isLead]
  simp only [continues]

/-- The first byte of a character of two bytes. -/
theorem LeadByte.of?_two {n : Nat} (low : 2 ≤ n) (high : n < 32) :
    LeadByte.of? (n + 192) = some ⟨1, 0x80, 0xbf, n⟩ := by
  rw [LeadByte.of?, if_pos (by omega), Nat.add_sub_cancel]

/-- The first byte of a character of three bytes. Shorter forms and surrogates are ruled out by the
second byte. -/
theorem LeadByte.of?_three {n : Nat} (high : n < 16) :
    LeadByte.of? (n + 224) =
      some ⟨2, if n = 0 then 0xa0 else 0x80, if n = 13 then 0x9f else 0xbf, n⟩ := by
  unfold LeadByte.of?
  grind

/-- The first byte of a character of four bytes. Shorter forms and what is beyond the last character
are ruled out by the second byte. -/
theorem LeadByte.of?_four {n : Nat} (high : n < 5) :
    LeadByte.of? (n + 240) =
      some ⟨3, if n = 0 then 0x90 else 0x80, if n = 4 then 0x8f else 0xbf, n⟩ := by
  unfold LeadByte.of?
  grind

/-- A character is read back from its bytes. -/
theorem charsOfBytes_encode (fuel : Nat) (c : Char) (rest : List UInt8) :
    charsOfBytes (fuel + 1) (String.utf8EncodeChar c ++ rest) = c :: charsOfBytes fuel rest := by
  have valid : c.val.toNat < 0xd800 ∨ 0xdfff < c.val.toNat ∧ c.val.toNat < 0x110000 := c.valid
  have isChar : Char.ofNat c.val.toNat = c := Char.ofNat_toNat c
  unfold String.utf8EncodeChar
  generalize c.val.toNat = n at valid isChar ⊢
  simp only
  split
  · change charsOfBytes (fuel + 1) (UInt8.ofNat n :: rest) = _
    rw [charsOfBytes, toNat_byte (by omega), if_pos (by omega), isChar]
  split
  · refine charsOfBytes_lead (by omega) (LeadByte.of?_two (by omega) (by omega)) ?_
    have whole : n / 64 % 32 * 64 + n % 64 = n := by omega
    change continuation _ _ _ _ (UInt8.ofNat (n % 64 + 128) :: rest) = _
    rw [continuation_byte (by omega) (by dsimp only; omega), continuation, whole, isChar]
  split
  · refine charsOfBytes_lead (by omega) (LeadByte.of?_three (by omega)) ?_
    have whole : (n / 4096 % 16 * 64 + n / 64 % 64) * 64 + n % 64 = n := by omega
    change continuation _ _ _ _ (UInt8.ofNat (n / 64 % 64 + 128) ::
      UInt8.ofNat (n % 64 + 128) :: rest) = _
    rw [continuation_byte (by omega) (by dsimp only; split <;> split <;> omega),
      continuation_byte (by omega) (by omega), continuation, whole, isChar]
  · refine charsOfBytes_lead (by omega) (LeadByte.of?_four (by omega)) ?_
    have whole : ((n / 262144 % 8 * 64 + n / 4096 % 64) * 64 + n / 64 % 64) * 64 + n % 64 = n := by
      omega
    change continuation _ _ _ _ (UInt8.ofNat (n / 4096 % 64 + 128) ::
      UInt8.ofNat (n / 64 % 64 + 128) :: UInt8.ofNat (n % 64 + 128) :: rest) = _
    rw [continuation_byte (by omega) (by dsimp only; split <;> split <;> omega),
      continuation_byte (by omega) (by omega), continuation_byte (by omega) (by omega),
      continuation, whole, isChar]

/-- Characters are read back from their bytes. -/
theorem charsOfBytes_flatMap {fuel : Nat} {chars : List Char} (enough : chars.length ≤ fuel) :
    charsOfBytes fuel (chars.flatMap String.utf8EncodeChar) = chars := by
  induction chars generalizing fuel with
  | nil => cases fuel <;> rfl
  | cons c rest ih =>
    cases fuel with
    | zero => exact absurd enough (Nat.not_succ_le_zero _)
    | succ fuel =>
      rw [List.flatMap_cons, charsOfBytes_encode, ih (Nat.le_of_succ_le_succ enough)]

/-- Characters have as many bytes at least. -/
theorem length_le_bytes (chars : List Char) :
    chars.length ≤ (chars.flatMap String.utf8EncodeChar).length := by
  induction chars with
  | nil => exact Nat.le_refl _
  | cons c rest ih =>
    have := c.utf8Size_pos
    rw [List.flatMap_cons, List.length_append, String.length_utf8EncodeChar, List.length_cons]
    omega

/-- A text has four bytes for each of its characters at most. -/
theorem utf8ByteSize_le (text : String) : text.utf8ByteSize ≤ 4 * text.length := by
  have each (chars : List Char) :
      (chars.flatMap String.utf8EncodeChar).length ≤ 4 * chars.length := by
    induction chars with
    | nil => exact Nat.le_refl _
    | cons c rest ih =>
      have := c.utf8Size_le_four
      rw [List.flatMap_cons, List.length_append, String.length_utf8EncodeChar, List.length_cons]
      omega
  rw [← length_utf8Bytes, utf8Bytes_eq, ← String.length_toList]
  exact each _

/-- The text of the bytes of a text is the text. -/
theorem ofBytes_utf8Bytes (text : String) : ofBytes (utf8Bytes text) = text := by
  rw [ofBytes, utf8Bytes_eq, charsOfBytes_flatMap (length_le_bytes _), String.ofList_toList]

/-! ### The order of texts -/

/-- Bytes are in the order of their numbers. -/
theorem byte_lt_iff {n m : Nat} (small : n < 256) (smallToo : m < 256) :
    UInt8.ofNat n < UInt8.ofNat m ↔ n < m := by
  rw [UInt8.lt_iff_toNat_lt, toNat_byte small, toNat_byte smallToo]

/-- Different bytes have different numbers. -/
theorem byte_eq_iff {n m : Nat} (small : n < 256) (smallToo : m < 256) :
    UInt8.ofNat n = UInt8.ofNat m ↔ n = m := by
  rw [← UInt8.toNat_inj, toNat_byte small, toNat_byte smallToo]

/-- Numbers are in the order of what is left of them without their last six bits, and then of
these. -/
theorem sixBits_lt {n m : Nat} (lower : n < m) :
    n / 64 < m / 64 ∨ n / 64 = m / 64 ∧ n % 64 < m % 64 := by
  omega

/-- The bytes of a lower character stand before those of a higher one, whatever follows them. -/
theorem encode_lt_encode {c d : Char} (lower : c < d) (rest others : List UInt8) :
    String.utf8EncodeChar c ++ rest < String.utf8EncodeChar d ++ others := by
  have last : d.val.toNat < 0x110000 := by
    have valid : d.val.toNat < 0xd800 ∨ 0xdfff < d.val.toNat ∧ d.val.toNat < 0x110000 := d.valid
    omega
  change c.val.toNat < d.val.toNat at lower
  unfold String.utf8EncodeChar
  generalize c.val.toNat = n at lower ⊢
  generalize d.val.toNat = m at lower last ⊢
  have shifted (i : Nat) : i / 4096 = i / 64 / 64 ∧ i / 262144 = i / 64 / 64 / 64 := by omega
  simp only [shifted]
  have first := sixBits_lt lower
  have second : n / 64 < m / 64 → _ := sixBits_lt
  have third : n / 64 / 64 < m / 64 / 64 → _ := sixBits_lt
  -- Where there are more bytes the first one is higher; as many are compared part by part.
  split_ifs <;> simp (disch := omega) only [List.cons_append, List.nil_append,
    List.cons_lt_cons_iff, byte_lt_iff, byte_eq_iff] <;> omega

/-- Characters in order have their bytes in order. -/
theorem flatMap_encode_lt {chars others : List Char} (before : chars < others) :
    chars.flatMap String.utf8EncodeChar < others.flatMap String.utf8EncodeChar := by
  induction chars generalizing others with
  | nil =>
    cases others with
    | nil => exact absurd before (List.not_lt_nil [])
    | cons d others =>
      have some : String.utf8EncodeChar d ≠ [] := String.utf8EncodeChar_ne_nil
      obtain ⟨byte, bytes, isSome⟩ := List.exists_cons_of_ne_nil some
      rw [List.flatMap_cons, isSome]
      exact List.nil_lt_cons _ _
  | cons c chars ih =>
    cases others with
    | nil => exact absurd before (List.not_lt_nil _)
    | cons d others =>
      rw [List.flatMap_cons, List.flatMap_cons]
      obtain lower | ⟨rfl, beforeToo⟩ := List.cons_lt_cons_iff.1 before
      · exact encode_lt_encode lower _ _
      · exact List.append_left_lt (ih beforeToo)

/-- Texts are in the order of their bytes. -/
theorem utf8Bytes_le_iff (text other : String) :
    utf8Bytes text ≤ utf8Bytes other ↔ text ≤ other := by
  have ordered {a b : String} (before : a < b) : utf8Bytes a < utf8Bytes b := by
    rw [utf8Bytes_eq, utf8Bytes_eq]
    exact flatMap_encode_lt before
  constructor
  · intro bytes
    exact String.not_lt.1 fun after => List.not_lt.2 bytes (ordered after)
  · intro before
    by_cases after : other ≤ text
    · rw [String.le_antisymm before after]
      exact List.le_refl _
    · exact List.le_of_lt (ordered (String.not_le.1 after))

/-- Texts are strictly in the order of their bytes. -/
theorem utf8Bytes_lt_iff (text other : String) :
    utf8Bytes text < utf8Bytes other ↔ text < other := by
  rw [← List.not_le, utf8Bytes_le_iff, String.not_le]

end PeerFirewall.Text
