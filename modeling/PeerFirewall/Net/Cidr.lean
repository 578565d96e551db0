import PeerFirewall.Net.Address

/-!
# Networks in CIDR notation

A network is an address and the length of its network part. The bits after that length are kept as
they were written. The address is read leniently.
-/
namespace PeerFirewall.Net

/-- A network of either version. -/
inductive Cidr where
  | v4 (address : Ipv4) (length : Fin 33)
  | v6 (address : Ipv6) (length : Fin 129)
deriving DecidableEq, Repr

namespace Cidr

/-- The one message for a text that is no network. -/
def badText : String := "invalid IP address syntax"

/-- Reads the length of the network part, which has to end the text. -/
def readLength (most bound : Nat) (text : List Char) : Option (Fin (bound + 1)) := do
  let text ← Reader.char '/' text
  let (length, rest) ← Reader.number 10 most (bound + 1) text
  if h : rest = [] ∧ length < bound + 1 then some ⟨length, h.2⟩ else none

/-- Reads a network of version 4. -/
def parseV4? (text : List Char) : Option Cidr := do
  let (address, rest) ← Reader.ipv4 .lenient text
  let length ← readLength 2 32 rest
  return .v4 address length

/-- Reads a network of version 6. -/
def parseV6? (text : List Char) : Option Cidr := do
  let (address, rest) ← Reader.ipv6 .lenient text
  let length ← readLength 3 128 rest
  return .v6 address length

/-- Reads a network of either version from the whole text. -/
def parse? (text : String) : Option Cidr :=
  match parseV4? text.toList with
  | some network => some network
  | none => parseV6? text.toList

/-- The canonical text of a network. -/
def text : Cidr → String
  | v4 address length => address.text ++ "/" ++ decimalText length.val
  | v6 address length => address.text ++ "/" ++ decimalText length.val

/-- Whether the network is of version 4. -/
def isV4 : Cidr → Bool
  | v4 _ _ => true
  | v6 _ _ => false

end Cidr

end PeerFirewall.Net
