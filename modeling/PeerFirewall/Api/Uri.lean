import PeerFirewall.Text.Utf8

/-!
# The addresses of requests

A request is sent to a path with a query. Names become part of the path as they are, so a name may
hold a question mark, which begins the query, a number sign, which ends the address, or a character
that no address may have, and then there is no such request. The parameters of the query are
written in the form encoding; reading them back undoes it.
-/
namespace PeerFirewall

/-- Where a request is sent to, as the server sees it. -/
structure Uri where
  path : String
  /-- The parameters in their order. -/
  query : List (String × String)
deriving DecidableEq, Repr

/-- Why a text is no address. -/
inductive UriFault where
  | tooLong
  | badCharacter
deriving DecidableEq, Repr

namespace UriFault

/-- The text of a fault. -/
def message : UriFault → String
  | tooLong => "uri too long"
  | badCharacter => "invalid uri character"

end UriFault

namespace Uri

/-- The most bytes an address may have. -/
def longest : Nat := 65534

/-- Whether a character may stand in a path. -/
def inPath (c : Char) : Bool :=
  let n := c.toNat
  n == 0x21 || (0x24 ≤ n && n ≤ 0x3b) || n == 0x3d || (0x40 ≤ n && n ≤ 0x5f) ||
    (0x61 ≤ n && n ≤ 0x7a) || n == 0x7c || n == 0x7e || c == '"' || c == '{' || c == '}' ||
    0x80 ≤ n

/-- Whether a character may stand in a query. -/
def inQuery (c : Char) : Bool :=
  let n := c.toNat
  n == 0x21 || (0x24 ≤ n && n ≤ 0x3b) || n == 0x3d || (0x3f ≤ n && n ≤ 0x7e) || 0x80 ≤ n

/-! ### The form encoding -/

/-- Two upper-case hexadecimal digits. -/
def twoHex (n : Nat) : List Char :=
  [(Nat.digitChar (n / 16)).toUpper, (Nat.digitChar (n % 16)).toUpper]

/-- One byte of a form. -/
def encodeByte (b : UInt8) : List Char :=
  let c := Char.ofNat b.toNat
  if b < 0x80 ∧ (c.isAlphanum ∨ c ∈ ['*', '-', '.', '_']) then [c]
  else if c = ' ' then ['+']
  else '%' :: twoHex b.toNat

/-- A text as it stands in a form. -/
def encodeText (text : String) : String :=
  String.ofList ((Text.utf8Bytes text).flatMap encodeByte)

/-- Parameters as they stand in a form. -/
def encodeQuery (query : List (String × String)) : String :=
  "&".intercalate (query.map fun (name, value) => encodeText name ++ "=" ++ encodeText value)

/-- The value of a hexadecimal digit. -/
def hexValue (b : UInt8) : Option Nat :=
  let n := b.toNat
  if 0x30 ≤ n ∧ n ≤ 0x39 then some (n - 0x30)
  else if 0x41 ≤ n ∧ n ≤ 0x46 then some (n - 0x41 + 10)
  else if 0x61 ≤ n ∧ n ≤ 0x66 then some (n - 0x61 + 10)
  else none

/-- The bytes that a percent sign and two digits, or a plus sign, stand for. A percent sign without
digits stands for itself. -/
def decodeBytes : List UInt8 → List UInt8
  | [] => []
  | [a] => [if a = 0x2b then 0x20 else a]
  | [a, b] => decodeBytes [a] ++ decodeBytes [b]
  | a :: b :: c :: rest =>
    match if a = 0x25 then (hexValue b).bind fun high => (hexValue c).map fun low => high * 16 + low
      else none with
    | some n => n.toUInt8 :: decodeBytes rest
    | none => (if a = 0x2b then 0x20 else a) :: decodeBytes (b :: c :: rest)

/-- The text of a name or a value in a form. -/
def decodeText (text : List Char) : String :=
  Text.ofBytes (decodeBytes (Text.utf8Bytes (String.ofList text)))

/-- One parameter: its name, and its value behind the first equals sign, if there is one. -/
def decodeParameter (text : List Char) : String × String :=
  (decodeText (text.takeWhile (· ≠ '=')), decodeText ((text.dropWhile (· ≠ '=')).drop 1))

/-- The parameters of a query; nothing between two ampersands is no parameter. -/
def decodeQuery (query : List Char) : List (String × String) :=
  ((query.splitOn '&').filter (· ≠ [])).map decodeParameter

/-! ### Addresses -/

/-- Reads an address. What follows a number sign does not belong to it. -/
def parse (text : String) : Except UriFault Uri :=
  let path := text.toList.takeWhile fun c => c ≠ '?' && c ≠ '#'
  let rest := text.toList.drop path.length
  let query := if rest.head? = some '?' then (rest.drop 1).takeWhile (· ≠ '#') else []
  if text.utf8ByteSize > longest then .error .tooLong
  else if path.all inPath ∧ query.all inQuery then
    .ok ⟨String.ofList path, decodeQuery query⟩
  else .error .badCharacter

/-- The value of the last parameter of that name. -/
def parameter? (uri : Uri) (name : String) : Option String := uri.query.reverse.lookup name

end Uri

end PeerFirewall
