import PeerFirewall.Text.Unprintable

/-!
# Quoted text in messages

Messages quote names and values between double quotes. Inside the quotes a double quote and a
backslash are escaped, the four common controls have short names, and every other character
without a visible form is written by its number in hexadecimal.
-/
namespace PeerFirewall.Text

/-- The digits of a number in lower-case hexadecimal, without leading zeros. -/
def hexadecimal (n : Nat) : String := String.ofList (Nat.toDigits 16 n)

/-- One character as it stands inside double quotes. -/
def quoteChar (c : Char) : String :=
  match c with
  | '\x00' => "\\0"
  | '\t' => "\\t"
  | '\r' => "\\r"
  | '\n' => "\\n"
  | '"' => "\\\""
  | '\\' => "\\\\"
  | c => if hasNoGlyph c then "\\u\x7b" ++ hexadecimal c.toNat ++ "\x7d" else c.toString

/-- A text between double quotes, every character in a visible form. -/
def quoted (text : String) : String :=
  "\"" ++ String.join (text.toList.map quoteChar) ++ "\""

end PeerFirewall.Text
