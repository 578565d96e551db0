import PeerFirewall.Json.Basic

/-!
# Words, numbers and strings of a JSON text

Each token has two readers that work on the text after its first character or characters: one that
wants the value and one that passes over it. Both return the rest of the text. They agree on where
a sound token ends; what each of them makes of an unsound one is put together by `Token.either`.
-/
namespace PeerFirewall.Json.Token

/-- What reading from the front of a text comes to: the value, and the rest of the text unless the
value breaks it off. -/
abbrev Step := Json × Option (List Char)

/-- The step of a token, the first character of which is given, as its two readers see it. -/
def either (first : Char) (read : Except Malformed (Json × List Char))
    (skip : Except Malformed (List Char)) : Step :=
  match read, skip with
  | .ok (value, rest), _ => (value, some rest)
  | .error fault, .ok rest => (.broken ⟨.value (some first), fault, none⟩, some rest)
  | .error fault, .error other => (.broken ⟨.value (some first), fault, some other⟩, none)

/-! ### Words -/

/-- Reads the rest of one of the words of the grammar. -/
def restOfWord : (rest text : List Char) → Except Malformed (List Char)
  | [], text => .ok text
  | _ :: _, [] => .error .endInValue
  | w :: rest, c :: text => if w = c then restOfWord rest text else .error .expectedWord

/-- Reads a word that stands for a value. -/
def word (value : Json) (first : Char) (rest text : List Char) : Step :=
  either first ((restOfWord rest text).map (value, ·)) (restOfWord rest text)

/-! ### Numbers -/

/-- The value of a decimal digit. -/
def digitValue (c : Char) : Nat := c.toNat - '0'.toNat

/-- The value of a run of decimal digits. -/
def digitsValue (digits : List Char) : Nat :=
  digits.foldl (fun n c => 10 * n + digitValue c) 0

/-- Appends digits to a number until it no longer fits 64 bits; also how many were left out. -/
def appendDigits : Nat → List Char → Nat × Nat
  | n, [] => (n, 0)
  | n, c :: rest =>
    let next := 10 * n + digitValue c
    if next < 18446744073709551616 then appendDigits next rest else (n, rest.length + 1)

/-- A number that is given by its parts. -/
structure Parts where
  negative : Bool
  whole : List Char
  /-- The digits after the point. -/
  fraction : Option (List Char)
  exponent : Option Int

/-- The value of a number. Digits of the whole part that do not fit count by their place alone, and
those of the fraction do not count. A whole number that fits 64 bits is exact, but for zero with a
minus. -/
def Parts.value (parts : Parts) : Except Malformed Json :=
  let (digits, left) := appendDigits 0 parts.whole
  let limit := if parts.negative then 9223372036854775808 else 18446744073709551615
  let exact := left = 0 ∧ digits ≤ limit ∧ ¬ (parts.negative ∧ digits = 0)
  if parts.fraction.isNone ∧ parts.exponent.isNone ∧ exact then
    .ok (.int (if parts.negative then -digits else digits))
  else
    let fraction := parts.fraction.getD []
    let (digits, dropped) := appendDigits digits fraction
    let taken : Int := fraction.length - dropped
    match Magnitude.ofDecimal digits (left - taken + parts.exponent.getD 0) with
    | some magnitude => .ok (.double ⟨parts.negative, magnitude⟩)
    | none => .error .numberTooLarge

/-- Takes the digits at the front of a text, of which there has to be one. Without one, the fault
depends on whether the text goes on. -/
def someDigits (atEnd : Malformed) (text : List Char) :
    Except Malformed (List Char × List Char) :=
  match text with
  | [] => .error atEnd
  | c :: _ =>
    if c.isDigit then .ok (text.takeWhile Char.isDigit, text.dropWhile Char.isDigit)
    else .error .badNumber

/-- Takes the whole part of a number: a zero that no digit follows, or digits that begin with
another one. -/
def wholePart (atEnd : Malformed) (text : List Char) :
    Except Malformed (List Char × List Char) := do
  let (digits, rest) ← someDigits atEnd text
  if digits.head? = some '0' ∧ digits.length > 1 then throw .badNumber
  return (digits, rest)

/-- Takes the fraction of a number, if it has one. -/
def fractionPart (atEnd : Malformed) (text : List Char) :
    Except Malformed (Option (List Char) × List Char) :=
  match text with
  | '.' :: rest => do
    let (digits, rest) ← someDigits atEnd rest
    return (some digits, rest)
  | _ => .ok (none, text)

/-- Takes the exponent of a number, if it has one. -/
def exponentPart (atEnd : Malformed) (text : List Char) :
    Except Malformed (Option Int × List Char) := do
  match text with
  | 'e' :: rest | 'E' :: rest =>
    match rest with
    | '-' :: rest =>
      let (digits, rest) ← someDigits atEnd rest
      return (some (-(digitsValue digits : Int)), rest)
    | '+' :: rest =>
      let (digits, rest) ← someDigits atEnd rest
      return (some (digitsValue digits), rest)
    | _ =>
      let (digits, rest) ← someDigits atEnd rest
      return (some (digitsValue digits), rest)
  | _ => return (none, text)

/-- Takes a number after its sign apart. -/
def parts (atEnd : Malformed) (negative : Bool) (text : List Char) :
    Except Malformed (Parts × List Char) := do
  let (whole, rest) ← wholePart atEnd text
  let (fraction, rest) ← fractionPart atEnd rest
  let (exponent, rest) ← exponentPart atEnd rest
  return (⟨negative, whole, fraction, exponent⟩, rest)

/-- Reads a number after its sign. -/
def readNumber (negative : Bool) (text : List Char) : Except Malformed (Json × List Char) := do
  let (parts, rest) ← parts .endInValue negative text
  return (← parts.value, rest)

/-- Passes over a number after its sign. -/
def skipNumber (text : List Char) : Except Malformed (List Char) :=
  (parts .badNumber false text).map (·.2)

/-- A number after its sign. -/
def number (negative : Bool) (first : Char) (text : List Char) : Step :=
  either first (readNumber negative text) (skipNumber text)

/-! ### Strings -/

/-- The value of a hexadecimal digit. -/
def hexValue (c : Char) : Option Nat :=
  if c.isDigit then some (digitValue c)
  else if 'a' ≤ c ∧ c ≤ 'f' then some (c.toNat - 'a'.toNat + 10)
  else if 'A' ≤ c ∧ c ≤ 'F' then some (c.toNat - 'A'.toNat + 10)
  else none

/-- The number of bytes of a text. -/
def byteLength (text : List Char) : Nat := (String.ofList text).utf8ByteSize

/-- Reads the four digits of a numbered escape. A text of fewer than four bytes ends too early. -/
def fourHex (text : List Char) : Except Malformed (Nat × List Char) :=
  match text with
  | a :: b :: c :: d :: rest =>
    match hexValue a, hexValue b, hexValue c, hexValue d with
    | some a, some b, some c, some d => .ok (((a * 16 + b) * 16 + c) * 16 + d, rest)
    | _, _, _, _ => .error .badEscape
  | _ => .error (if byteLength text < 4 then .endInString else .badEscape)

/-- Whether a code is the first half of a surrogate pair. -/
def isHigh (code : Nat) : Bool := 0xd800 ≤ code && code ≤ 0xdbff

/-- Whether a code is the second half of a surrogate pair. -/
def isLow (code : Nat) : Bool := 0xdc00 ≤ code && code ≤ 0xdfff

/-- The character of a surrogate pair. -/
def joinHalves (high low : Nat) : Char :=
  Char.ofNat (0x10000 + (high - 0xd800) * 0x400 + (low - 0xdc00))

/-- Reads the escape of the second half of a surrogate pair. -/
def secondHalf (high : Nat) (text : List Char) : Except Malformed (Char × List Char) :=
  match text with
  | [] => .error .endInString
  | '\\' :: [] => .error .endInString
  | '\\' :: 'u' :: rest => do
    let (low, rest) ← fourHex rest
    if isLow low then return (joinHalves high low, rest) else throw .loneSurrogate
  | _ => .error .halfPair

/-- Reads a numbered escape, or two that make a pair. -/
def numbered (text : List Char) : Except Malformed (Char × List Char) := do
  let (code, rest) ← fourHex text
  if isLow code then throw .loneSurrogate
  if isHigh code then secondHalf code rest else return (Char.ofNat code, rest)

/-- The character of an escape by one letter. -/
def lettered (c : Char) : Except Malformed Char :=
  match c with
  | '"' => .ok '"'
  | '\\' => .ok '\\'
  | '/' => .ok '/'
  | 'b' => .ok '\x08'
  | 'f' => .ok '\x0c'
  | 'n' => .ok '\n'
  | 'r' => .ok '\r'
  | 't' => .ok '\t'
  | _ => .error .badEscape

/-- Reads an escape after its backslash. -/
def readEscape : List Char → Except Malformed (Char × List Char)
  | [] => .error .endInString
  | c :: rest =>
    if c = 'u' then numbered rest else (lettered c).map (·, rest)

/-- Passes over an escape after its backslash. -/
def skipEscape : List Char → Except Malformed (List Char)
  | [] => .error .endInString
  | c :: rest =>
    if c = 'u' then (fourHex rest).map (·.2) else (lettered c).map fun _ => rest

/-- Goes through a string after its opening quote, keeping the characters that `escape` and plain
characters stand for. As many steps are enough as the text has characters, and one more. -/
def characters (escape : List Char → Except Malformed (List Char × List Char)) :
    Nat → List Char → List Char → Except Malformed (List Char × List Char)
  | 0, _, _ => .error .endInString
  | _ + 1, _, [] => .error .endInString
  | fuel + 1, done, c :: rest =>
    if c = '"' then .ok (done.reverse, rest)
    else if c = '\\' then
      match escape rest with
      | .error fault => .error fault
      | .ok (read, rest) => characters escape fuel (read ++ done) rest
    else if c.toNat < 0x20 then .error .controlInString
    else characters escape fuel (c :: done) rest

/-- Reads a string after its opening quote. -/
def readString (fuel : Nat) (text : List Char) : Except Malformed (String × List Char) :=
  (characters (fun text => (readEscape text).map fun (c, rest) => ([c], rest))
    fuel [] text).map fun (read, rest) => (String.ofList read, rest)

/-- Passes over a string after its opening quote. -/
def skipString (fuel : Nat) (text : List Char) : Except Malformed (List Char) :=
  (characters (fun text => (skipEscape text).map fun rest => ([], rest))
    fuel [] text).map (·.2)

/-- A string after its opening quote. -/
def string (fuel : Nat) (text : List Char) : Step :=
  either '"' ((readString fuel text).map fun (read, rest) => (.str read, rest))
    (skipString fuel text)

end PeerFirewall.Json.Token
