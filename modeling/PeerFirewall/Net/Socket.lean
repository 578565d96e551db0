import PeerFirewall.Net.Address

/-!
# Socket addresses

A socket address is a host, a colon and a number. A host of version 6 stands in brackets and may
have the number of its zone behind a percent sign. The address of the host is read strictly; the
numbers may have zeros in front.
-/
namespace PeerFirewall.Net.Socket

/-- What is wrong with a text that is no socket address. -/
def badText : String := "invalid socket address syntax"

/-- Reads a whole number below a bound, with as many digits as there are. -/
def number (bound : Nat) (text : List Char) : Option (Nat × List Char) :=
  Reader.number 10 text.length bound text

/-- The text behind the zone of a host, if it has one. -/
def afterZone (text : List Char) : List Char :=
  match text with
  | '%' :: rest =>
    match number 4294967296 rest with
    | some (_, rest) => rest
    | none => text
  | _ => text

/-- The text behind a host of version 6 in brackets. -/
def afterBrackets (text : List Char) : Option (List Char) := do
  let text ← Reader.char '[' text
  let (_, text) ← Reader.ipv6 .strict text
  Reader.char ']' (afterZone text)

/-- The text behind a host. -/
def afterHost (text : List Char) : Option (List Char) :=
  ((Reader.ipv4 .strict text).map (·.2)).orElse fun () => afterBrackets text

/-- Whether a text is a socket address. -/
def isSocket (text : String) : Bool :=
  ((afterHost text.toList).bind (Reader.char ':')).bind (number 65536) |>.any (·.2.isEmpty)

end PeerFirewall.Net.Socket
