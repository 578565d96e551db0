import PeerFirewall.Json.Reader
import PeerFirewall.Text.Quoted

/-!
# Reading typed values from JSON

A decoder turns a JSON value into a value of a type or says what is wrong with it. This module
holds what can be wrong, the wording, and the decoders of single values; records of named fields
are in `PeerFirewall.Json.Record`.

A few faults are worded differently where a value is read straight from text. `Decoder.readText`
reads from text: it reports the first fault in the order of the text, so a break of the grammar
counts only where the decoder comes that far.
-/
namespace PeerFirewall

/-- What was found where something else was expected. -/
inductive Found where
  | null
  | bool (value : Bool)
  | int (value : Int)
  | double (value : Double)
  | str (text : String)
  | sequence
  | map
deriving DecidableEq, Repr

/-- Why a JSON value is no value of a type. -/
inductive DecodeError where
  /-- The value is of another type than the expected one. -/
  | wrongType (found : Found) (expected : String)
  /-- A whole number is beyond the range of the expected type. -/
  | outOfRange (value : Int) (expected : String)
  /-- A text is not the only one allowed. -/
  | wrongText (text : String) (expected : String)
  /-- An object stands for a named choice but does not have exactly one member. -/
  | notOneMember
  | unknownVariant (name : String) (known : List String)
  | missingField (name : String)
  | duplicateField (name : String)
  /-- An array stands for a record but ends before that field, which has no default. -/
  | tooFew (place : Nat) (expected : String)
  /-- An array stands for a record and has more elements than the record has fields. -/
  | tooMany (count : Nat)
  /-- A text does not name a point in time. -/
  | badTime (reason : String)
  /-- The text of the value breaks the grammar. -/
  | malformed (fault : Malformed)
  /-- The error depends on whether the value is read straight from text. -/
  | byForm (ofValue ofText : DecodeError)
deriving DecidableEq, Repr

namespace Found

/-- How a message names what was found. -/
def describe : Found → String
  | null => "null"
  | bool true => "boolean `true`"
  | bool false => "boolean `false`"
  | int n => "integer `" ++ toString n ++ "`"
  | double d => "floating point `" ++ d.text ++ "`"
  | str text => "string " ++ Text.quoted text
  | sequence => "sequence"
  | map => "map"

end Found

namespace DecodeError

/-- The names a choice may have, as a message lists them. -/
def listNames : List String → String
  | [] => "there are no variants"
  | [a] => "expected `" ++ a ++ "`"
  | [a, b] => "expected `" ++ a ++ "` or `" ++ b ++ "`"
  | names => "expected one of " ++ ", ".intercalate (names.map fun name => "`" ++ name ++ "`")

/-- The text of the error. -/
def message : DecodeError → String
  | wrongType found expected => "invalid type: " ++ found.describe ++ ", expected " ++ expected
  | outOfRange n expected =>
    "invalid value: integer `" ++ toString n ++ "`, expected " ++ expected
  | wrongText text expected =>
    "invalid value: string " ++ Text.quoted text ++ ", expected " ++ expected
  | notOneMember => "invalid value: map, expected map with a single key"
  | unknownVariant name known => "unknown variant `" ++ name ++ "`, " ++ listNames known
  | missingField name => "missing field `" ++ name ++ "`"
  | duplicateField name => "duplicate field `" ++ name ++ "`"
  | tooFew place expected => "invalid length " ++ toString place ++ ", expected " ++ expected
  | tooMany count =>
    "invalid length " ++ toString count ++ ", expected fewer elements in array"
  | badTime reason => reason
  | malformed fault => fault.message
  | byForm ofValue _ => ofValue.message

/-- The same error met while the value is read straight from text. -/
def inText : DecodeError → DecodeError
  | byForm _ ofText => ofText
  | error => error

end DecodeError

/-- Reads a value of a type from a JSON value. -/
abbrev Decoder (α : Type) := Json → Except DecodeError α

namespace Decoder

/-- The error for a value of another type than the expected one. -/
def mismatch {α : Type} (value : Json) (expected : String) : Except DecodeError α :=
  match value with
  | .null => .error (.wrongType .null expected)
  | .bool b => .error (.wrongType (.bool b) expected)
  | .int n => .error (.wrongType (.int n) expected)
  | .double d => .error (.wrongType (.double d) expected)
  | .str text => .error (.wrongType (.str text) expected)
  | .broken fault => .error (.malformed fault.reading)
  | .arr _ => .error (.wrongType .sequence expected)
  | .obj _ => .error (.wrongType .map expected)

/-- A text. -/
def string : Decoder String
  | .str text => .ok text
  | value => mismatch value "a string"

/-- A truth value. -/
def bool : Decoder Bool
  | .bool b => .ok b
  | value => mismatch value "a boolean"

/-- A whole number between two bounds; `expected` names the type with these bounds. -/
def intBetween (low high : Int) (expected : String) : Decoder Int
  | .int n => if low ≤ n ∧ n ≤ high then .ok n else .error (.outOfRange n expected)
  | value => mismatch value expected

/-- A signed whole number of 64 bits. -/
def int64 : Decoder Int64 := fun value =>
  (intBetween (-9223372036854775808) 9223372036854775807 "i64" value).map Int64.ofInt

/-- A signed whole number of 32 bits. -/
def int32 : Decoder Int32 := fun value =>
  (intBetween (-2147483648) 2147483647 "i32" value).map Int32.ofInt

/-- An unsigned whole number of 8 bits. -/
def uint8 : Decoder UInt8 := fun value =>
  (intBetween 0 255 "u8" value).map fun n => n.toNat.toUInt8

/-- An unsigned whole number of 16 bits. -/
def uint16 : Decoder UInt16 := fun value =>
  (intBetween 0 65535 "u16" value).map fun n => n.toNat.toUInt16

/-- An unsigned whole number of 32 bits. -/
def uint32 : Decoder UInt32 := fun value =>
  (intBetween 0 4294967295 "u32" value).map fun n => n.toNat.toUInt32

/-- Either null or a value. What begins like null has to be null. -/
def optional {α : Type} (decode : Decoder α) : Decoder (Option α)
  | .null => .ok none
  | .broken fault =>
    if fault.place = .value (some 'n') then .error (.malformed fault.reading)
    else (decode (.broken fault)).map some
  | value => (decode value).map some

/-- Any value, passed over. -/
def skip : Decoder Unit := fun value =>
  match value.skipFault? with
  | some fault => .error (.malformed fault)
  | none => .ok ()

/-- The value of a member, passed over. A break between the members of an object is met by every
reader of the object. -/
def skipMember : Decoder Unit
  | .broken ⟨.next, fault, _⟩ => .error (.malformed fault)
  | value => skip value

/-- Any value, kept as it is; it stands inside that many arrays and objects. -/
def keep (depth : Nat) : Decoder Json := fun value =>
  match value.readFault? depth with
  | some fault => .error (.malformed fault)
  | none => .ok value

/-- The elements of a list, the first fault first. -/
def elements {α : Type} (decode : Decoder α) : List Json → Except DecodeError (List α)
  | [] => .ok []
  | element :: rest =>
    match decode element with
    | .error error => .error error
    | .ok a =>
      match elements decode rest with
      | .error error => .error error
      | .ok as => .ok (a :: as)

/-- A list of values. -/
def list {α : Type} (decode : Decoder α) : Decoder (List α)
  | .arr es => elements decode es
  | value => mismatch value "a sequence"

/-- Checks the values of members, the first fault first. -/
def checkMembers {α : Type} (decode : Decoder α) : List (String × Json) → Except DecodeError Unit
  | [] => .ok ()
  | (_, value) :: rest =>
    match decode value with
    | .error error => .error error
    | .ok _ => checkMembers decode rest

/-- Checks a map from names to values. -/
def checkMap {α : Type} (decode : Decoder α) : Decoder Unit
  | .obj members => checkMembers decode members
  | value => mismatch value "a map"

/-- The choice of that name among named choices. -/
def choose {α : Type} (choices : List (String × α)) (name : String) : Except DecodeError α :=
  match choices.find? (·.1 = name) with
  | some choice => .ok choice.2
  | none => .error (.unknownVariant name (choices.map (·.1)))

/-- The payload of a named choice, which is null. -/
def noPayload : Decoder Unit
  | .null => .ok ()
  | value => mismatch value "unit"

/-- A named choice as an object whose one member has its name and the value null. -/
def choiceOfMembers {α : Type} (choices : List (String × α)) :
    List (String × Json) → Except DecodeError α
  | [(name, payload)] =>
    match choose choices name with
    | .error error => .error error
    | .ok a => (noPayload payload).map fun () => a
  | _ => .error .notOneMember

/-- What stands after the first member in the text of a named choice, where a brace should. -/
def afterChoice {α : Type} (a : α) : List (String × Json) → Except DecodeError α
  | [] => .ok a
  | (_, .broken ⟨.next, .endInObject, _⟩) :: _ => .error (.malformed .endInObject)
  | _ :: _ => .error (.malformed .expectedValue)

/-- A named choice in the text of an object. Its name comes first, then its payload, then the
closing brace. -/
def choiceInText {α : Type} (choices : List (String × α)) :
    List (String × Json) → Except DecodeError α
  | [] => .error (.malformed .expectedValue)
  | (_, .broken ⟨.next, .endInObject, _⟩) :: _ => .error (.malformed .endInValue)
  | (_, .broken ⟨.next, .nameNotString, _⟩) :: (_, name) :: _ =>
    mismatch name "variant identifier"
  | (_, .broken ⟨.next, fault, _⟩) :: _ => .error (.malformed fault)
  | (name, payload) :: rest =>
    match choose choices name with
    | .error error => .error error
    | .ok a =>
      match noPayload payload with
      | .error error => .error error
      | .ok () => afterChoice a rest

/-- The fault of a text that holds neither the name of a choice nor an object. -/
def notAChoice : Json → Malformed
  | .broken ⟨.value none, _, _⟩ => .endInValue
  | .broken ⟨.value (some c), fault, _⟩ => if c = '"' then fault else .expectedValue
  | .broken ⟨_, fault, _⟩ => fault
  | _ => .expectedValue

/-- The error where the value is read straight from text, beside the one where it is not. -/
def orInText {α : Type} (ofValue ofText : Except DecodeError α) : Except DecodeError α :=
  match ofValue, ofText with
  | .ok a, _ => .ok a
  | .error v, .error t => .error (.byForm v t)
  | .error v, .ok _ => .error v

/-- A named choice: its name, or an object whose one member has that name and the value null. -/
def choice {α : Type} (choices : List (String × α)) : Decoder α
  | .str name => choose choices name
  | .obj members => orInText (choiceOfMembers choices members) (choiceInText choices members)
  | value =>
    orInText (mismatch value "string or map") (.error (.malformed (notAChoice value)))

/-- Reads a value of a type from a text that holds nothing else. -/
def readText {α : Type} (decode : Decoder α) (text : String) : Except DecodeError α :=
  let (value, ended) := Json.read text
  match decode value with
  | .error error => .error error.inText
  | .ok a => if ended then .ok a else .error (.malformed .trailing)

end Decoder

end PeerFirewall
