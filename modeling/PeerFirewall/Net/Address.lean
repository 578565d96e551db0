/-!
# Network addresses

Addresses of both versions of the Internet protocol, with the readers that take one from the front
of a text and the canonical text: decimal octets for version 4; for version 6 lower-case groups
without leading zeros, the first of the longest runs of at least two zero groups as `::`, and the
embedded form for an address that maps one of version 4.
-/
namespace PeerFirewall.Net

/-- An address of version 4. -/
structure Ipv4 where
  a : UInt8
  b : UInt8
  c : UInt8
  d : UInt8
deriving DecidableEq, Repr

/-- An address of version 6, as its eight groups. -/
structure Ipv6 where
  groups : List UInt16
  length_eq : groups.length = 8
deriving DecidableEq, Repr

namespace Reader

/-- The value of a digit in a base of at most sixteen. -/
def digit (base : Nat) (c : Char) : Option Nat :=
  let value :=
    if c.isDigit then c.toNat - '0'.toNat
    else if 'a' ≤ c ∧ c ≤ 'f' then c.toNat - 'a'.toNat + 10
    else if 'A' ≤ c ∧ c ≤ 'F' then c.toNat - 'A'.toNat + 10
    else base
  if value < base then some value else none

/-- The digits at the front of a text. -/
def digits (base : Nat) (text : List Char) : List Nat :=
  (text.takeWhile fun c => (digit base c).isSome).filterMap (digit base)

/-- Reads a number below a bound from the longest run of digits, which may not exceed `most`. -/
def number (base most bound : Nat) (text : List Char) : Option (Nat × List Char) :=
  let ds := digits base text
  let value := ds.foldl (fun n d => base * n + d) 0
  if ds.isEmpty ∨ ds.length > most ∨ value ≥ bound then none
  else some (value, text.drop ds.length)

/-- Reads a given character. -/
def char (c : Char) : List Char → Option (List Char)
  | [] => none
  | d :: rest => if d = c then some rest else none

/-- How closely an address has to keep to the grammar. -/
inductive Strictness where
  /-- Octets may have zeros in front, and `::` may stand for nothing. -/
  | lenient
  /-- Octets have no zeros in front, and `::` stands for one group at least. -/
  | strict
deriving DecidableEq, Repr

/-- Reads one decimal octet. -/
def octet (strictness : Strictness) (text : List Char) : Option (UInt8 × List Char) := do
  let (value, rest) ← number 10 3 256 text
  let length := text.length - rest.length
  if strictness = .strict ∧ text.head? = some '0' ∧ length > 1 then none
  else return (value.toUInt8, rest)

/-- Reads four decimal octets with points between them. -/
def ipv4 (strictness : Strictness) (text : List Char) : Option (Ipv4 × List Char) := do
  let (a, text) ← octet strictness text
  let text ← char '.' text
  let (b, text) ← octet strictness text
  let text ← char '.' text
  let (c, text) ← octet strictness text
  let text ← char '.' text
  let (d, text) ← octet strictness text
  return (⟨a, b, c, d⟩, text)

/-- The text after the colon before a group, or the text itself at the first group. -/
def separator (first : Bool) (text : List Char) : Option (List Char) :=
  if first then some text else char ':' text

/-- Two octets as one group. -/
def joinOctets (high low : UInt8) : UInt16 := (high.toNat * 256 + low.toNat).toUInt16

/-- Reads up to `limit` groups. The last two may be written as an address of version 4; the flag
says whether they were. -/
def groups (strictness : Strictness) : Nat → Bool → List Char → List UInt16 × Bool × List Char
  | 0, _, text => ([], false, text)
  | limit + 1, first, text =>
    let embedded :=
      if limit = 0 then none else (separator first text).bind (ipv4 strictness)
    match embedded with
    | some (v4, rest) => ([joinOctets v4.a v4.b, joinOctets v4.c v4.d], true, rest)
    | none =>
      match (separator first text).bind (number 16 4 65536) with
      | none => ([], false, text)
      | some (group, rest) =>
        let (more, wasEmbedded, rest) := groups strictness limit false rest
        (group.toUInt16 :: more, wasEmbedded, rest)

/-- The groups as an address, if there are eight. -/
def eightGroups (gs : List UInt16) : Option Ipv6 :=
  if h : gs.length = 8 then some ⟨gs, h⟩ else none

/-- The most groups that may follow `::` after some groups. -/
def mostBehind (strictness : Strictness) (before : Nat) : Nat :=
  match strictness with
  | .lenient => 8 - before
  | .strict => 7 - before

/-- Reads eight groups, of which `::` may stand for a run of zeros. -/
def ipv6 (strictness : Strictness) (text : List Char) : Option (Ipv6 × List Char) := do
  let (head, embedded, text) := groups strictness 8 true text
  if head.length = 8 then
    let address ← eightGroups head
    return (address, text)
  else if embedded then none
  else
    let text ← char ':' text
    let text ← char ':' text
    let (tail, _, text) := groups strictness (mostBehind strictness head.length) true text
    let zeros := List.replicate (8 - head.length - tail.length) 0
    let address ← eightGroups (head ++ zeros ++ tail)
    return (address, text)

end Reader

/-- A number in decimal. -/
def decimalText (n : Nat) : String := String.ofList (Nat.toDigits 10 n)

/-- The canonical text of an address of version 4. -/
def Ipv4.text (v4 : Ipv4) : String :=
  decimalText v4.a.toNat ++ "." ++ decimalText v4.b.toNat ++ "." ++ decimalText v4.c.toNat ++ "." ++
    decimalText v4.d.toNat

namespace Ipv6

/-- A group in hexadecimal. -/
def groupText (group : UInt16) : String := String.ofList (Nat.toDigits 16 group.toNat)

/-- Groups with colons between them. -/
def groupsText (gs : List UInt16) : String := ":".intercalate (gs.map groupText)

/-- Where the first of the longest runs of zero groups begins, and its length. -/
def longestZeros : Nat → List UInt16 → Nat × Nat
  | _, [] => (0, 0)
  | place, group :: rest =>
    let here := ((group :: rest).takeWhile (· = 0)).length
    let later := longestZeros (place + 1) rest
    if here ≠ 0 ∧ here ≥ later.2 then (place, here) else later

/-- The canonical text of an address of version 6. -/
def text (v6 : Ipv6) : String :=
  match v6.groups with
  | [0, 0, 0, 0, 0, 0xffff, high, low] =>
    let octets (group : UInt16) : String :=
      decimalText (group.toNat / 256) ++ "." ++ decimalText (group.toNat % 256)
    "::ffff:" ++ octets high ++ "." ++ octets low
  | gs =>
    let (start, length) := longestZeros 0 gs
    if length ≥ 2 then
      groupsText (gs.take start) ++ "::" ++ groupsText (gs.drop (start + length))
    else groupsText gs

end Ipv6

end PeerFirewall.Net
