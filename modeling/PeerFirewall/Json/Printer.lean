import PeerFirewall.Json.Basic

/-!
# Writing JSON text

`Json.write` is the compact form: no space between tokens, members in their order, and in strings
only what the grammar demands is escaped.
-/
namespace PeerFirewall

namespace Json

/-- Two lower-case hexadecimal digits. -/
def twoHex (n : Nat) : String :=
  String.ofList [Nat.digitChar (n / 16), Nat.digitChar (n % 16)]

/-- One character as it stands inside a JSON string. -/
def escapeChar (c : Char) : String :=
  match c with
  | '"' => "\\\""
  | '\\' => "\\\\"
  | '\x08' => "\\b"
  | '\x0c' => "\\f"
  | '\n' => "\\n"
  | '\r' => "\\r"
  | '\t' => "\\t"
  | c => if c.toNat < 0x20 then "\\u00" ++ twoHex c.toNat else c.toString

/-- A text as a JSON string. -/
def writeString (text : String) : String :=
  "\"" ++ String.join (text.toList.map escapeChar) ++ "\""

mutual

/-- The compact text of a value; there is no text for a break, and null stands for it. -/
def write : Json → String
  | .null => "null"
  | .bool true => "true"
  | .bool false => "false"
  | .int n => toString n
  | .double d => d.text
  | .str text => writeString text
  | .broken _ => "null"
  | .arr elements => "[" ++ writeElements true elements ++ "]"
  | .obj members => "\x7b" ++ writeMembers true members ++ "\x7d"

/-- The texts of elements with commas between them. -/
def writeElements : Bool → List Json → String
  | _, [] => ""
  | first, element :: rest =>
    (if first then "" else ",") ++ write element ++ writeElements false rest

/-- The texts of members with commas between them. -/
def writeMembers : Bool → List (String × Json) → String
  | _, [] => ""
  | first, (name, value) :: rest =>
    (if first then "" else ",") ++ writeString name ++ ":" ++ write value ++
      writeMembers false rest

end

instance : Repr Json where
  reprPrec value _ := value.write

end Json

end PeerFirewall
