/-!
# White space around list items

Lists on the command line are split at commas and each piece is trimmed. The white space that is
trimmed is the Unicode property `White_Space`; a piece that holds nothing else is blank.
-/
namespace PeerFirewall.Text

/-- The Unicode property `White_Space`. -/
def isBlank (c : Char) : Bool :=
  let n := c.toNat
  (0x09 ≤ n && n ≤ 0x0d) || n == 0x20 || n == 0x85 || n == 0xa0 || n == 0x1680 ||
    (0x2000 ≤ n && n ≤ 0x200a) || n == 0x2028 || n == 0x2029 || n == 0x202f || n == 0x205f ||
    n == 0x3000

/-- The characters without white space at either end. -/
def trim (text : List Char) : List Char :=
  ((text.dropWhile isBlank).reverse.dropWhile isBlank).reverse

/-- The pieces of a text between its commas, in order; one piece if there is no comma. -/
def pieces : List Char → List (List Char)
  | [] => [[]]
  | c :: rest =>
    if c = ',' then [] :: pieces rest
    else
      match pieces rest with
      | [] => [[c]]
      | piece :: others => (c :: piece) :: others

/-- The items of a comma-separated list: its trimmed pieces, without the blank ones. -/
def listItems (text : String) : List String :=
  ((pieces text.toList).map trim).filterMap fun piece =>
    if piece.isEmpty then none else some (String.ofList piece)

end PeerFirewall.Text
