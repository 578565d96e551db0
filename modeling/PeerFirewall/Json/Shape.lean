import PeerFirewall.Json.Decoder

/-!
# The shapes of fields

Objects of the kinds that the API server itself defines are checked in all their fields, also where
nothing is kept of them. A shape says what a value has to be; the shape of an object gives the
shapes of its fields. Every field may be absent or null, a member that is no field is passed over,
and a field may come again.
-/
namespace PeerFirewall

/-- What a value has to be. -/
abbrev Shape := Decoder Unit

/-- The names of some fields with their shapes. -/
abbrev Shapes := List (String × Shape)

namespace Shape

/-- The shape of what a decoder reads. -/
def of {α : Type} (decode : Decoder α) : Shape := fun value => (decode value).map fun _ => ()

/-- A text. -/
def text : Shape := of Decoder.string

/-- A truth value. -/
def flag : Shape := of Decoder.bool

/-- A whole number of 32 bits. -/
def int32 : Shape := of Decoder.int32

/-- A whole number of 64 bits. -/
def int64 : Shape := of Decoder.int64

/-- A list. -/
def list (element : Shape) : Shape := of (Decoder.list element)

/-- A map by name. -/
def map (value : Shape) : Shape := Decoder.checkMap value

/-- A list of texts. -/
def texts : Shape := list text

/-- The shape of a member of an object with some fields. -/
def member (fields : Shapes) (name : String) : Shape :=
  match fields.lookup name with
  | some shape => of (Decoder.optional shape)
  | none => Decoder.skipMember

/-- Checks the members of an object, the first fault first. -/
def members (fields : Shapes) : List (String × Json) → Except DecodeError Unit
  | [] => .ok ()
  | (name, value) :: rest =>
    match member fields name value with
    | .error error => .error error
    | .ok () => members fields rest

/-- An object called by a name, with some fields. -/
def object (name : String) (fields : Shapes) : Shape
  | .obj present => members fields present
  | value => Decoder.mismatch value name

end Shape

end PeerFirewall
