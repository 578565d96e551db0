import PeerFirewall.Json.Token

/-!
# Reading JSON text

`Json.read` reads the value at the front of a text and says whether that is all, white space apart.
It does not fail: where the text breaks the grammar the value has a break (`Json.broken`), and what
stands before the break is kept, so that a reader of a typed value can find a fault that comes
earlier in the text. `Json.skipFault?` is the first fault that a reader meets who passes over the
value, `Json.readFault?` the first one that a reader meets who keeps it as it is.

Each function of `Json.Reader` reads from the front of a text and returns the rest, or none where
the text breaks off. Every second call takes a character away, so twice the length of the text
bounds the recursion, and what is left of that bound is more than the length of the rest.
-/
namespace PeerFirewall.Json

/-- The most arrays and objects that may stand inside each other where values are kept. -/
def deepest : Nat := 127

mutual

/-- The first fault for a reader that passes over a value. -/
def skipFault? : Json → Option Malformed
  | .broken fault => fault.skipping
  | .arr elements => skipFaultOfElements elements
  | .obj members => skipFaultOfMembers members
  | _ => none

/-- The first fault for a reader that passes over elements. -/
def skipFaultOfElements : List Json → Option Malformed
  | [] => none
  | element :: rest => element.skipFault?.or (skipFaultOfElements rest)

/-- The first fault for a reader that passes over members. -/
def skipFaultOfMembers : List (String × Json) → Option Malformed
  | [] => none
  | (_, value) :: rest => value.skipFault?.or (skipFaultOfMembers rest)

end

mutual

/-- The first fault for a reader that keeps a value, which stands inside that many arrays and
objects. -/
def readFault? (depth : Nat) : Json → Option Malformed
  | .broken fault => some fault.reading
  | .arr elements =>
    if depth < deepest then readFaultOfElements (depth + 1) elements else some .tooDeep
  | .obj members =>
    if depth < deepest then readFaultOfMembers (depth + 1) members else some .tooDeep
  | _ => none

/-- The first fault for a reader that keeps elements. -/
def readFaultOfElements (depth : Nat) : List Json → Option Malformed
  | [] => none
  | element :: rest => (element.readFault? depth).or (readFaultOfElements depth rest)

/-- The first fault for a reader that keeps members. -/
def readFaultOfMembers (depth : Nat) : List (String × Json) → Option Malformed
  | [] => none
  | (_, value) :: rest => (value.readFault? depth).or (readFaultOfMembers depth rest)

end

namespace Reader

open Token (Step)

/-- Whether a character may stand between the tokens of a JSON text. -/
def isSpace (c : Char) : Bool := c = ' ' || c = '\n' || c = '\t' || c = '\r'

/-- The text from the first character that is no space. -/
def skipSpace (text : List Char) : List Char := text.dropWhile isSpace

/-- A break after which there is nothing more, the same for every reader. -/
def stop (place : Place) (fault : Malformed) : Json := .broken ⟨place, fault, some fault⟩

/-- A break after which there is nothing more. -/
def stopFor (place : Place) (reading skipping : Malformed) : Json :=
  .broken ⟨place, reading, some skipping⟩

/-- What ends an array at that place of the text: a bracket or a fault. The flag says whether the
array has no element yet. -/
def endOfList (first : Bool) (text : List Char) : Option (List Json × Option (List Char)) :=
  match text with
  | [] => some ([stop .next .endInList], none)
  | ']' :: rest => some ([], some rest)
  | c :: rest =>
    if first then none
    else if c = ',' then
      match skipSpace rest with
      | [] => some ([stop .next .endInValue], none)
      | ']' :: _ => some ([stopFor .next .commaAtEnd .expectedValue], none)
      | _ => none
    else some ([stop .next .expectedCommaInList], none)

/-- What ends an object at that place of the text: a brace or a fault. The flag says whether the
object has no member yet. -/
def endOfObject (first : Bool) (text : List Char) :
    Option (List (String × Json) × Option (List Char)) :=
  match text with
  | [] => some ([("", stop .next .endInObject)], none)
  | '}' :: rest => some ([], some rest)
  | c :: rest =>
    if first then none
    else if c = ',' then
      match skipSpace rest with
      | [] => some ([("", stopFor .next .endInValue .endInObject)], none)
      | '}' :: _ => some ([("", stopFor .next .commaAtEnd .nameNotString)], none)
      | _ => none
    else some ([("", stop .next .expectedCommaInObject)], none)

/-- The text from the next element or member on: behind the comma, if one has to stand there. -/
def behindComma (first : Bool) (text : List Char) : List Char :=
  if first then text else skipSpace (text.drop 1)

/-- The rest of a text behind the colon between a name and its value, or the break there. -/
def colon (text : List Char) : Except Json (List Char) :=
  match skipSpace text with
  | [] => .error (stop .colon .endInObject)
  | ':' :: rest => .ok rest
  | _ => .error (stop .colon .expectedColon)

/-- A member whose name has a fault for a reader that wants it. A reader that passes over it goes
on to the value. -/
def unnamed (fault : Malformed) (value : Json) : Json :=
  .broken ⟨.next, fault, value.skipFault?⟩

mutual

/-- Reads one value from the front of a text. -/
def value : Nat → List Char → Step
  | 0, _ => (stop (.value none) .endInValue, none)
  | fuel + 1, text =>
    match skipSpace text with
    | [] => (stop (.value none) .endInValue, none)
    | 'n' :: rest => Token.word .null 'n' ['u', 'l', 'l'] rest
    | 't' :: rest => Token.word (.bool true) 't' ['r', 'u', 'e'] rest
    | 'f' :: rest => Token.word (.bool false) 'f' ['a', 'l', 's', 'e'] rest
    | '-' :: rest => Token.number true '-' rest
    | '"' :: rest => Token.string fuel rest
    | '[' :: rest =>
      let (read, rest) := elements fuel true rest
      (.arr read, rest)
    | '{' :: rest =>
      let (read, rest) := members fuel true rest
      (.obj read, rest)
    | c :: rest =>
      if c.isDigit then Token.number false c (c :: rest)
      else (stop (.value (some c)) .expectedValue, none)

/-- Reads the elements of an array up to its closing bracket. -/
def elements : Nat → Bool → List Char → List Json × Option (List Char)
  | 0, _, _ => ([stop .next .endInList], none)
  | fuel + 1, first, text =>
    let text := skipSpace text
    match endOfList first text with
    | some last => last
    | none =>
      match value fuel (behindComma first text) with
      | (read, none) => ([read], none)
      | (read, some rest) =>
        let (more, rest) := elements fuel false rest
        (read :: more, rest)

/-- Reads the members of an object up to its closing brace. Where something other than a string
stands in the place of a name, it is read as well and kept behind the break. -/
def members : Nat → Bool → List Char → List (String × Json) × Option (List Char)
  | 0, _, _ => ([("", stop .next .endInObject)], none)
  | fuel + 1, first, text =>
    let text := skipSpace text
    match endOfObject first text with
    | some last => last
    | none =>
      match behindComma first text with
      | '"' :: text =>
        match Token.readString fuel text, Token.skipString fuel text with
        | .ok (name, rest), _ =>
          match memberValue fuel rest with
          | (read, none) => ([(name, read)], none)
          | (read, some rest) =>
            let (more, rest) := members fuel false rest
            ((name, read) :: more, rest)
        | .error fault, .ok rest =>
          match memberValue fuel rest with
          | (read, none) => ([("", unnamed fault read)], none)
          | (read, some rest) =>
            let (more, rest) := members fuel false rest
            (("", unnamed fault read) :: more, rest)
        | .error fault, .error other => ([("", stopFor .next fault other)], none)
      | text => ([("", stop .next .nameNotString), ("", (value fuel text).1)], none)

/-- Reads what follows the name of a member. -/
def memberValue : Nat → List Char → Step
  | 0, _ => (stop .colon .endInObject, none)
  | fuel + 1, text =>
    match colon text with
    | .error fault => (fault, none)
    | .ok rest => value fuel rest

end

end Reader

/-- Reads the value at the front of a text; also whether the text ends with it. -/
def read (text : String) : Json × Bool :=
  let chars := text.toList
  match Reader.value (2 * chars.length + 2) chars with
  | (value, none) => (value, true)
  | (value, some rest) => (value, (Reader.skipSpace rest).isEmpty)

end PeerFirewall.Json
