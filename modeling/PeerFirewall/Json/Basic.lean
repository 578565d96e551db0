import PeerFirewall.Double
import PeerFirewall.Json.Malformed

/-!
# JSON values

A value keeps the order of an object's members and their repetitions, because a decoder reports
the first fault in the order of the text. Whole numbers are kept apart from numbers written with a
fraction or an exponent, which no field here accepts.

A value read from a text that breaks off has a break in the place where it does. Inside an array
the break stands as the last element, inside an object as the last member, which has an empty name
unless the name could be read.
-/
namespace PeerFirewall

/-- A JSON value. -/
inductive Json where
  | null
  | bool (value : Bool)
  /-- A number written without fraction and exponent. -/
  | int (value : Int)
  /-- A number written with a fraction or an exponent, or too large for 64 bits. -/
  | double (value : Double)
  | str (text : String)
  /-- A place where the text is unreadable. -/
  | broken (fault : Break)
  | arr (elements : List Json)
  | obj (members : List (String × Json))
deriving Inhabited

namespace Json

mutual

/-- Whether two values are the same, members in the same order. -/
def decEq : (a b : Json) → Decidable (a = b)
  | .null, b => match b with
    | .null => .isTrue rfl
    | .bool _ | .int _ | .double _ | .str _ | .broken _ | .arr _ | .obj _ => .isFalse nofun
  | .broken x, b => match b with
    | .broken y => decidable_of_iff (x = y) ⟨fun h => h ▸ rfl, fun h => Json.broken.inj h⟩
    | .bool _ | .int _ | .double _ | .str _ | .null | .arr _ | .obj _ => .isFalse nofun
  | .bool x, b => match b with
    | .bool y => decidable_of_iff (x = y) ⟨fun h => h ▸ rfl, fun h => Json.bool.inj h⟩
    | .null | .int _ | .double _ | .str _ | .broken _ | .arr _ | .obj _ => .isFalse nofun
  | .int x, b => match b with
    | .int y => decidable_of_iff (x = y) ⟨fun h => h ▸ rfl, fun h => Json.int.inj h⟩
    | .null | .bool _ | .double _ | .str _ | .broken _ | .arr _ | .obj _ => .isFalse nofun
  | .double x, b => match b with
    | .double y => decidable_of_iff (x = y) ⟨fun h => h ▸ rfl, fun h => Json.double.inj h⟩
    | .null | .bool _ | .int _ | .str _ | .broken _ | .arr _ | .obj _ => .isFalse nofun
  | .str x, b => match b with
    | .str y => decidable_of_iff (x = y) ⟨fun h => h ▸ rfl, fun h => Json.str.inj h⟩
    | .null | .bool _ | .int _ | .double _ | .broken _ | .arr _ | .obj _ => .isFalse nofun
  | .arr xs, b => match b with
    | .arr ys =>
      match decEqElements xs ys with
      | .isTrue h => .isTrue (h ▸ rfl)
      | .isFalse h => .isFalse fun e => h (Json.arr.inj e)
    | .null | .bool _ | .int _ | .double _ | .broken _ | .str _ | .obj _ => .isFalse nofun
  | .obj xs, b => match b with
    | .obj ys =>
      match decEqMembers xs ys with
      | .isTrue h => .isTrue (h ▸ rfl)
      | .isFalse h => .isFalse fun e => h (Json.obj.inj e)
    | .null | .bool _ | .int _ | .double _ | .broken _ | .str _ | .arr _ => .isFalse nofun

/-- Whether two lists of values are the same. -/
def decEqElements : (xs ys : List Json) → Decidable (xs = ys)
  | [], [] => .isTrue rfl
  | [], _ :: _ => .isFalse nofun
  | _ :: _, [] => .isFalse nofun
  | x :: xs, y :: ys =>
    match decEq x y, decEqElements xs ys with
    | .isTrue h, .isTrue t => .isTrue (h ▸ t ▸ rfl)
    | .isFalse h, _ => .isFalse fun e => h (List.cons.inj e).1
    | _, .isFalse t => .isFalse fun e => t (List.cons.inj e).2

/-- Whether two lists of members are the same. -/
def decEqMembers : (xs ys : List (String × Json)) → Decidable (xs = ys)
  | [], [] => .isTrue rfl
  | [], _ :: _ => .isFalse nofun
  | _ :: _, [] => .isFalse nofun
  | (k, x) :: xs, (l, y) :: ys =>
    match decEq x y, decEqMembers xs ys with
    | .isTrue h, .isTrue t =>
      if k_eq : k = l then .isTrue (k_eq ▸ h ▸ t ▸ rfl)
      else .isFalse fun e => k_eq (Prod.mk.inj (List.cons.inj e).1).1
    | .isFalse h, _ => .isFalse fun e => h (Prod.mk.inj (List.cons.inj e).1).2
    | _, .isFalse t => .isFalse fun e => t (List.cons.inj e).2

end

instance : DecidableEq Json := decEq

/-- An object of the members that are present, in the given order. -/
def record (members : List (String × Option Json)) : Json :=
  .obj (members.filterMap fun member => member.2.map (member.1, ·))

/-- An array of encoded elements. -/
def list {α : Type} (encode : α → Json) (elements : List α) : Json :=
  .arr (elements.map encode)

/-- The value of the last member of that name, if the value is an object that has one. -/
def get? (name : String) : Json → Option Json
  | .obj members => (members.reverse.find? (·.1 = name)).map (·.2)
  | _ => none

/-- Puts a member into a list sorted by name, in place of a member of the same name. -/
def insertMember (name : String) (value : Json) : List (String × Json) → List (String × Json)
  | [] => [(name, value)]
  | (other, kept) :: rest =>
    if name < other then (name, value) :: (other, kept) :: rest
    else if name = other then (name, value) :: rest
    else (other, kept) :: insertMember name value rest

mutual

/-- The value with the members of every object sorted by name, the last of equal names kept. -/
def sorted : Json → Json
  | .arr elements => .arr (sortedElements elements)
  | .obj members => .obj (sortedMembers members [])
  | other => other

/-- The elements, each with sorted members. -/
def sortedElements : List Json → List Json
  | [] => []
  | element :: rest => sorted element :: sortedElements rest

/-- The members put one by one into a sorted list. -/
def sortedMembers : List (String × Json) → List (String × Json) → List (String × Json)
  | [], done => done
  | (name, value) :: rest, done => sortedMembers rest (insertMember name (sorted value) done)

end

end Json

end PeerFirewall
