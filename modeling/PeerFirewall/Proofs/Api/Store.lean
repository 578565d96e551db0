import PeerFirewall.Proofs.Api.Version
import PeerFirewall.Api.Reply

/-!
# An object at the API server

A `Store` is what the API server holds under one name. Every accepted write gives the object a
version that it never had before; a replacement is refused unless it carries the version that is
stored. So whoever has read an object and replaces it has replaced the object that was read
(`Store.Since.unchanged`), whatever others have done in between.
-/
namespace PeerFirewall

/-- How the versions of an object are named, each differently. -/
structure Versions where
  name : Nat → String
  distinct : Function.Injective name

/-- Versions that differ in their lengths. -/
def Versions.byLength : Versions where
  name place := String.ofList (List.replicate place 'v')
  distinct first second same := by simpa using congrArg String.length same

/-- What is stored under a name, and how often something has been stored there. -/
structure Store (versions : Versions) where
  stored : Option Json
  writes : Nat
  /-- What is stored has the version of one of the writes. -/
  past : ∀ object, stored = some object →
    ∃ place < writes, ∃ written : Json, object = written.stamp (versions.name place)

namespace Store

variable {versions : Versions}

/-- Nothing has ever been stored. -/
def empty : Store versions := ⟨none, 0, nofun⟩

/-- The object as it is stored by the next write. -/
def next (store : Store versions) (object : Json) : Json :=
  object.stamp (versions.name store.writes)

/-- Stores an object. -/
def put (store : Store versions) (object : Json) : Store versions where
  stored := some (store.next object)
  writes := store.writes + 1
  past := by
    intro object isStored
    cases isStored
    exact ⟨store.writes, Nat.lt_succ_self _, object, rfl⟩

/-- Removes what is stored. -/
def remove (store : Store versions) : Store versions := ⟨none, store.writes, nofun⟩

/-! ### What may have happened since -/

/-- Whether a store may have come about from an earlier one: what is stored is what was stored then,
or it has been written since. -/
structure Since (earlier later : Store versions) : Prop where
  writes : earlier.writes ≤ later.writes
  stored : ∀ object, later.stored = some object → earlier.stored = some object ∨
    ∃ place, earlier.writes ≤ place ∧ ∃ written : Json,
      object = written.stamp (versions.name place)

/-- A store has come about from itself. -/
theorem Since.refl (store : Store versions) : Since store store :=
  ⟨Nat.le_refl _, fun _ stored => .inl stored⟩

/-- What has happened in two stretches of time has happened in both together. -/
theorem Since.trans {first second third : Store versions} (early : Since first second)
    (late : Since second third) : Since first third where
  writes := Nat.le_trans early.writes late.writes
  stored object stored := by
    rcases late.stored object stored with kept | ⟨place, since, written⟩
    · exact early.stored object kept
    · exact .inr ⟨place, Nat.le_trans early.writes since, written⟩

/-- Something may have been stored. -/
theorem Since.put (store : Store versions) (object : Json) : Since store (store.put object) where
  writes := Nat.le_succ _
  stored := by
    intro object isStored
    cases isStored
    exact .inr ⟨store.writes, Nat.le_refl _, object, rfl⟩

/-- What was stored may have been removed. -/
theorem Since.remove (store : Store versions) : Since store store.remove :=
  ⟨Nat.le_refl _, nofun⟩

/-- What has the version that was read is what was read. -/
theorem Since.unchanged {earlier later : Store versions} (since : Since earlier later)
    {read object : Json} (before : earlier.stored = some read) (after : later.stored = some object)
    (sameVersion : object.version? = read.version?) : object = read := by
  rcases since.stored object after with kept | ⟨place, late, written, rfl⟩
  · exact Option.some.inj (kept.symm.trans before)
  · obtain ⟨early, past, source, rfl⟩ := earlier.past read before
    have sameName : versions.name place = versions.name early := by simpa using sameVersion
    have samePlace := versions.distinct sameName
    omega

/-! ### Requests -/

/-- The reply that holds an object. -/
def reply (object : Json) : Reply := ⟨200, .json object⟩

/-- The reply that refuses a request. -/
def refusal (code : Nat) (reason : String) : Reply where
  status := code
  content := .json (.record [
    ("kind", some (.str "Status")),
    ("status", some (.str "Failure")),
    ("message", some (.str reason)),
    ("reason", some (.str reason)),
    ("code", some (.int code))])

/-- A value is read from the reply that holds its object. -/
theorem read_reply {α : Type} {decode : Decoder α} {object : Json} {a : α}
    (readable : decode object = .ok a) : (reply object).read decode = .ok a := by
  change ((decode object).mapError DecodeError.inText).mapError ApiError.undecodable = .ok a
  rw [readable]
  rfl

/-- No value is read from the reply that holds something else. -/
theorem read_reply_error {α : Type} {decode : Decoder α} {object : Json} {fault : DecodeError}
    (unreadable : decode object = .error fault) :
    (reply object).read decode = .error (.undecodable fault.inText) := by
  change ((decode object).mapError DecodeError.inText).mapError ApiError.undecodable = _
  rw [unreadable]
  rfl

/-- Serves a request for the object itself. -/
def serveObject (store : Store versions) (method : Method) (body : Option Json) :
    Reply × Store versions :=
  match store.stored, method, body with
  | some object, .get, _ => (reply object, store)
  | some object, .put, some body =>
    if body.version? = object.version? then (reply (store.next body), store.put body)
    else (refusal 409 "Conflict", store)
  | some object, .delete, _ => (reply object, store.remove)
  | some _, _, _ => (refusal 405 "MethodNotAllowed", store)
  | none, _, _ => (refusal 404 "NotFound", store)

/-- Serves a request for the objects of which this may be one. -/
def serveObjects (store : Store versions) (name : String) (method : Method) (body : Option Json) :
    Reply × Store versions :=
  match method, body with
  | .post, some body =>
    if body.metadata.get? "name" = some (.str name) then
      match store.stored with
      | some _ => (refusal 409 "AlreadyExists", store)
      | none => (reply (store.next body), store.put body)
    else (refusal 422 "Invalid", store)
  | _, _ => (refusal 405 "MethodNotAllowed", store)

/-- Serves a request where the object of that name is the only one. -/
def serve (objects : Collection) (name : String) (store : Store versions) (request : Request) :
    Reply × Store versions :=
  if request.endpoint = .object objects name then store.serveObject request.method request.body
  else if request.endpoint = .collection objects then
    store.serveObjects name request.method request.body
  else (refusal 404 "NotFound", store)

/-- A read is answered with what is stored. -/
theorem serve_get (objects : Collection) (name : String) (store : Store versions)
    (query : List (String × String)) (body : Option Json) :
    store.serve objects name ⟨.get, .object objects name, query, body⟩ =
      match store.stored with
      | some object => (reply object, store)
      | none => (refusal 404 "NotFound", store) := by
  simp only [serve, if_true, serveObject]
  cases store.stored <;> rfl

/-- A replacement is accepted if it carries the version that is stored. -/
theorem serve_put (objects : Collection) (name : String) (store : Store versions)
    (query : List (String × String)) (body : Json) :
    store.serve objects name ⟨.put, .object objects name, query, some body⟩ =
      match store.stored with
      | some object =>
        if body.version? = object.version? then (reply (store.next body), store.put body)
        else (refusal 409 "Conflict", store)
      | none => (refusal 404 "NotFound", store) := by
  simp only [serve, if_true, serveObject]
  cases store.stored <;> rfl

/-- A new object is accepted if none is stored under its name. -/
theorem serve_post (objects : Collection) {name : String} (store : Store versions)
    (query : List (String × String)) {body : Json}
    (named : body.metadata.get? "name" = some (.str name)) :
    store.serve objects name ⟨.post, .collection objects, query, some body⟩ =
      match store.stored with
      | some _ => (refusal 409 "AlreadyExists", store)
      | none => (reply (store.next body), store.put body) := by
  have other : Endpoint.collection objects ≠ .object objects name := nofun
  simp only [serve, if_neg other, if_true, serveObjects, named]

/-- What somebody else does to the object. -/
inductive Interference where
  | write (object : Json)
  | remove

/-- The store after what somebody else does. -/
def after (store : Store versions) : Interference → Store versions
  | .write object => store.put object
  | .remove => store.remove

/-- The store after what others do, one after the other. -/
def afterAll (store : Store versions) (others : List Interference) : Store versions :=
  others.foldl after store

/-- Whatever others do happens after what was before. -/
theorem since_afterAll (store : Store versions) (others : List Interference) :
    Since store (store.afterAll others) := by
  induction others generalizing store with
  | nil => exact .refl store
  | cons first rest ih =>
    have step : Since store (store.after first) := by
      cases first with
      | write object => exact .put store object
      | remove => exact .remove store
    exact step.trans (ih _)

end Store

end PeerFirewall
