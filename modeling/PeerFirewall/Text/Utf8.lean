/-!
# Text as bytes

The bytes of a text in UTF-8, and the text of bytes that need not be sound: each longest sequence
that begins a character but does not end it, and each byte that begins none, becomes one
replacement character.
-/
namespace PeerFirewall.Text

/-- The bytes of a text. -/
def utf8Bytes (text : String) : List UInt8 := text.toUTF8.toList

/-- Stands for what is no character. -/
def replacement : Char := '\ufffd'

/-- The first byte of a character of several bytes. -/
structure LeadByte where
  /-- How many bytes follow. -/
  following : Nat
  /-- The bounds of the byte that follows at once; those after it lie between `0x80` and `0xbf`. -/
  low : Nat
  high : Nat
  /-- The part of the character's number that the byte holds. -/
  bits : Nat

/-- Takes a byte for the first one of a character of several bytes. Longer forms than necessary,
surrogates and numbers beyond the last character are ruled out by the bounds. -/
def LeadByte.of? (b : Nat) : Option LeadByte :=
  if 0xc2 ≤ b ∧ b ≤ 0xdf then some ⟨1, 0x80, 0xbf, b - 0xc0⟩
  else if b = 0xe0 then some ⟨2, 0xa0, 0xbf, b - 0xe0⟩
  else if b = 0xed then some ⟨2, 0x80, 0x9f, b - 0xe0⟩
  else if 0xe1 ≤ b ∧ b ≤ 0xef then some ⟨2, 0x80, 0xbf, b - 0xe0⟩
  else if b = 0xf0 then some ⟨3, 0x90, 0xbf, b - 0xf0⟩
  else if 0xf1 ≤ b ∧ b ≤ 0xf3 then some ⟨3, 0x80, 0xbf, b - 0xf0⟩
  else if b = 0xf4 then some ⟨3, 0x80, 0x8f, b - 0xf0⟩
  else none

/-- Reads the bytes that follow the first one of a character, and returns those after them. -/
def continuation : Nat → Nat → Nat → Nat → List UInt8 → Char × List UInt8
  | 0, _, _, bits, rest => (Char.ofNat bits, rest)
  | _ + 1, _, _, _, [] => (replacement, [])
  | following + 1, low, high, bits, b :: rest =>
    if low ≤ b.toNat ∧ b.toNat ≤ high then
      continuation following 0x80 0xbf (bits * 64 + b.toNat % 64) rest
    else (replacement, b :: rest)

/-- Reads the characters of bytes, as many as the first argument allows. -/
def charsOfBytes : Nat → List UInt8 → List Char
  | 0, _ | _, [] => []
  | fuel + 1, b :: rest =>
    if b.toNat < 0x80 then Char.ofNat b.toNat :: charsOfBytes fuel rest
    else
      match LeadByte.of? b.toNat with
      | none => replacement :: charsOfBytes fuel rest
      | some lead =>
        let (c, rest) := continuation lead.following lead.low lead.high lead.bits rest
        c :: charsOfBytes fuel rest

/-- The text of bytes. -/
def ofBytes (bytes : List UInt8) : String := String.ofList (charsOfBytes bytes.length bytes)

end PeerFirewall.Text
