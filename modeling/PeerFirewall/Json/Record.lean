import PeerFirewall.Json.Shape

/-!
# Records of named fields

A record is read field by field, each field from the member of its name, or, where an array stands
for the record, from the element in its place. The fields are read independently of each other;
of several faults the one that stands first in the text is reported, and a missing field only where
nothing that is present has a fault (`Reading.both`). Members that are no fields are passed over,
or kept where the rest of an object belongs to the record.

A `Record` is built like a function application: `Rule.mk <$> … <*> … <*> …`, in the order of the
declared fields, which is the order of the elements of an array and of the missing fields.
-/
namespace PeerFirewall

/-- What reading some fields of a record comes to. -/
inductive Reading (α : Type) where
  | read (value : α)
  /-- The member or element in that place has a fault. -/
  | fault (place : Nat) (error : DecodeError)
  /-- All that is present is sound, and the field of that name, which has that place in an array, is
  missing. -/
  | missing (name : String) (place : Nat)
deriving Repr

namespace Reading

variable {α β : Type}

/-- Changes the value read. -/
def map (f : α → β) : Reading α → Reading β
  | read a => read (f a)
  | fault place error => fault place error
  | missing name place => missing name place

/-- Joins two readings: the fault in the first place wins, and a fault wins over a missing field. -/
def both (first : Reading (α → β)) (second : Reading α) : Reading β :=
  match first, second with
  | read f, read a => read (f a)
  | fault p e, fault q e' => if q < p then fault q e' else fault p e
  | fault p e, _ => fault p e
  | _, fault q e => fault q e
  | missing name place, _ => missing name place
  | read _, missing name place => missing name place

/-- The reading of one value. -/
def ofResult (place : Nat) : Except DecodeError α → Reading α
  | .ok a => read a
  | .error error => fault place error

end Reading

/-- What a record makes of a member that repeats an earlier one. -/
inductive Repetition where
  /-- It is a fault. -/
  | refused
  /-- It takes the place of the earlier one, which has to be sound nevertheless. -/
  | replaces
deriving DecidableEq, Repr

/-- The fields of a record with values of a type. -/
structure Record (α : Type) where
  /-- The names of the fields. -/
  names : List String
  /-- Reads them from the members of an object, each with its place. -/
  ofMembers : Repetition → List (Nat × String × Json) → Reading α
  /-- Reads them from the front of the elements of an array, the first of which has that place. -/
  ofElements : Nat → List Json → Reading α

namespace Record

variable {α β : Type}

/-- How many fields there are. -/
def width (record : Record α) : Nat := record.names.length

instance : Functor Record where
  map f record :=
    { names := record.names
      ofMembers := fun repetition members => (record.ofMembers repetition members).map f
      ofElements := fun place elements => (record.ofElements place elements).map f }

instance : Seq Record where
  seq first second :=
    { names := first.names ++ (second ()).names
      ofMembers := fun repetition members =>
        (first.ofMembers repetition members).both ((second ()).ofMembers repetition members)
      ofElements := fun place elements =>
        (first.ofElements place elements).both
          ((second ()).ofElements (place + first.width) (elements.drop first.width)) }

/-- The members of that name, in order. -/
def occurrences (name : String) (members : List (Nat × String × Json)) : List (Nat × Json) :=
  members.filterMap fun member =>
    if member.2.1 = name then some (member.1, member.2.2) else none

/-- Reads the only occurrence of a field; what is wrong may also be that it is not the only one. -/
def only (name : String) (decode : Decoder α) (absent : Reading α) :
    List (Nat × Json) → Reading α
  | [] => absent
  | [(place, value)] => .ofResult place (decode value)
  | (place, value) :: (again, _) :: _ =>
    match decode value with
    | .error error => .fault place error
    | .ok _ => .fault again (.duplicateField name)

/-- Reads every occurrence of a field and keeps the last. -/
def last (decode : Decoder α) : Reading α → List (Nat × Json) → Reading α
  | kept, [] => kept
  | _, (place, value) :: rest =>
    match decode value with
    | .error error => .fault place error
    | .ok a => last decode (.read a) rest

/-- One field: `absent` is its reading where it is not among the members, and `beyond` where an
array ends before it. -/
def fieldOr (name : String) (decode : Decoder α) (absent : Reading α) (beyond : Nat → Reading α) :
    Record α where
  names := [name]
  ofMembers
    | .refused, members => only name decode absent (occurrences name members)
    | .replaces, members => last decode absent (occurrences name members)
  ofElements place
    | [] => beyond place
    | value :: _ => .ofResult place (decode value)

/-- A field that has to be there. -/
def field (name : String) (decode : Decoder α) : Record α :=
  fieldOr name decode (.missing name 0) (.missing name)

/-- A field with a default. -/
def fieldWithDefault (name : String) (decode : Decoder α) (default : α) : Record α :=
  fieldOr name decode (.read default) fun _ => .read default

/-- A field that may be absent or null. -/
def optionalField (name : String) (decode : Decoder α) : Record (Option α) :=
  fieldWithDefault name (Decoder.optional decode) none

/-- A field whose default also stands for null. -/
def lenientField (name : String) (decode : Decoder α) (default : α) : Record α :=
  (·.getD default) <$> optionalField name decode

/-- A field that may be absent from an object, or null, but has its place in an array. -/
def nullableField (name : String) (decode : Decoder α) : Record (Option α) :=
  fieldOr name (Decoder.optional decode) (.read none) (.missing name)

/-- Pairs each member with its place. -/
def placed (members : List (String × Json)) : List (Nat × String × Json) :=
  members.zipIdx.map fun member => (member.2, member.1)

/-- Checks the members that are no fields, each by its name. -/
def others (names : List String) (other : String → Shape) :
    List (Nat × String × Json) → Reading Unit
  | [] => .read ()
  | (place, name, value) :: rest =>
    if name ∈ names then others names other rest
    else
      match other name value with
      | .error error => .fault place error
      | .ok () => others names other rest

/-- Reads all members of an object; those that are no fields are checked. -/
def readMembers (record : Record α) (repetition : Repetition) (other : String → Shape)
    (members : List (String × Json)) : Reading α :=
  let members := placed members
  ((others record.names other members).map fun () a => a).both
    (record.ofMembers repetition members)

/-- The number of elements that an array for the record has, in words. -/
def countFields (name : String) (width : Nat) : String :=
  name ++ " with " ++ toString width ++ (if width = 1 then " element" else " elements")

/-- Ends the reading of an object. -/
def finish : Reading α → Except DecodeError α
  | .read a => .ok a
  | .fault _ error => .error error
  | .missing name _ => .error (.missingField name)

/-- What is wrong with a text that has this, an element or a break, behind the last field of an
array. -/
def behindLast : Json → Malformed
  | .broken ⟨.next, .endInList, _⟩ => .endInList
  | .broken ⟨.next, .commaAtEnd, _⟩ => .commaAtEnd
  | _ => .trailing

/-- Reads a record called `struct name` from an object or an array. -/
def decode (name : String) (record : Record α) : Decoder α
  | .obj members => finish (record.readMembers .refused (fun _ => Decoder.skipMember) members)
  | .arr elements =>
    match record.ofElements 0 elements, elements.drop record.width with
    | .fault _ error, _ => .error error
    | .missing _ place, _ =>
      .error (.tooFew place (countFields ("struct " ++ name) record.width))
    | .read a, [] => .ok a
    | .read _, extra :: _ =>
      .error (.byForm (.tooMany elements.length) (.malformed (behindLast extra)))
  | value => Decoder.mismatch value ("struct " ++ name)

/-- Reads a record called `struct name` from an object only, to which the other members belong as
well. The object stands inside that many arrays and objects. -/
def decodeWhole (name : String) (depth : Nat) (record : Record α) : Decoder α
  | .obj members =>
    finish (record.readMembers .refused (fun _ => .of (Decoder.keep (depth + 1))) members)
  | value => Decoder.mismatch value ("struct " ++ name)

/-- Reads a record from an object that has already been read whole. -/
def decodeAgain (name : String) (record : Record α) : Decoder α
  | .obj members => finish (record.readMembers .refused (fun _ _ => .ok ()) members)
  | value => Decoder.mismatch value ("struct " ++ name)

/-- Reads a record of a kind that the API server itself defines: from an object only, whose last
member of a name counts. The fields of which nothing is kept are given by their shapes. -/
def decodeBuiltIn (name : String) (unkept : Shapes) (record : Record α) : Decoder α
  | .obj members => finish (record.readMembers .replaces (Shape.member unkept) members)
  | value => Decoder.mismatch value name

end Record

end PeerFirewall
