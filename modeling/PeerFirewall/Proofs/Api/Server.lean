import Mathlib.Logic.Function.Basic
import PeerFirewall.Proofs.Api.Address
import PeerFirewall.Proofs.Api.Cluster
import PeerFirewall.Proofs.Api.MergePatch
import PeerFirewall.Proofs.Compile.Outcome
import PeerFirewall.Proofs.Fabric.Reads

/-!
# A server that stores what it is sent

A `Server` holds objects of any kind under their names and changes only what it is asked to change:
what a request is not about stays as it is (`Server.stored_serve_of_ne`). A `Scene` is how far a
program has come that is alone with such a server: nobody else writes, the clock gives one reading
after the other, and the state of the cluster reads the same each time. What calls come to in a
scene is said by one lemma for each of them.
-/
namespace PeerFirewall

/-- An object with the status of another one. -/
def Json.withStatusOf (object other : Json) : Json :=
  match other.get? "status" with
  | some status => object.withMember "status" status
  | none => object.without "status"

/-- What is to become of an object, if the method is one for objects: it may be none. -/
def Method.change? (method : Method) (body : Option Json) (object : Json) : Option (Option Json) :=
  match method, body with
  | .get, _ => some (some object)
  | .put, some body => some (some body)
  | .patch .merge, some changes => some (some (changes.mergePatch object))
  | .patch .json, some operations => (object.patched? operations).map some
  | .delete, _ => some none
  | _, _ => none

/-- Objects, each in a collection under a name. -/
structure Server where
  stored : Collection × String → Option Json

namespace Server

/-- What is stored under a name becomes something else, or nothing. -/
def set (server : Server) (key : Collection × String) (object : Option Json) : Server :=
  ⟨Function.update server.stored key object⟩

/-- What is set is stored. -/
@[simp] theorem stored_set (server : Server) (key : Collection × String) (object : Option Json) :
    (server.set key object).stored key = object := Function.update_self ..

/-- What is stored under other names is kept. -/
theorem stored_set_of_ne (server : Server) {key other : Collection × String} (object : Option Json)
    (different : other ≠ key) : (server.set key object).stored other = server.stored other :=
  Function.update_of_ne different ..

/-- Setting what is stored changes nothing. -/
theorem set_of_stored {server : Server} {key : Collection × String} {object : Option Json}
    (isStored : server.stored key = object) : server.set key object = server := by
  rw [set, ← isStored, Function.update_eq_self]

/-- Whether a server has the objects of every collection but one as another server has them. -/
def AgreesBut (later server : Server) (objects : Collection) : Prop :=
  ∀ key : Collection × String, key.1 ≠ objects → later.stored key = server.stored key

/-! ### Requests -/

/-- Serves a request that changes what is stored under a name. -/
def serveObject (server : Server) (key : Collection × String)
    (change : Json → Option (Option Json)) : Reply × Server :=
  match server.stored key with
  | none => (Store.refusal 404 "NotFound", server)
  | some object =>
    match change object with
    | none => (Store.refusal 405 "MethodNotAllowed", server)
    | some later => (Store.reply (later.getD object), server.set key later)

/-- Serves a request to store a new object under its name. -/
def serveCreation (server : Server) (objects : Collection) (body : Json) : Reply × Server :=
  match body.name? with
  | some (.str name) =>
    match server.stored (objects, name) with
    | some _ => (Store.refusal 409 "AlreadyExists", server)
    | none => (Store.reply body, server.set (objects, name) (some body))
  | _ => (Store.refusal 422 "Invalid", server)

/-- Serves a request. What is sent for a status changes nothing else, and objects are not listed. -/
def serve (server : Server) (request : Request) : Reply × Server :=
  match request.endpoint with
  | .object objects name =>
    server.serveObject (objects, name) (request.method.change? request.body)
  | .status objects name =>
    server.serveObject (objects, name) fun object =>
      (request.method.change? request.body object).join.map fun later =>
        some (object.withStatusOf later)
  | .collection objects =>
    match request.method, request.body with
    | .post, some body => server.serveCreation objects body
    | _, _ => (Store.refusal 405 "MethodNotAllowed", server)
  | .groupResources _ => (Store.refusal 404 "NotFound", server)

variable {server : Server} {objects : Collection} {name : String}

/-- What is stored is read. -/
theorem serve_get {object : Json} (isStored : server.stored (objects, name) = some object)
    (query : List (String × String)) :
    server.serve ⟨.get, .object objects name, query, none⟩ = (Store.reply object, server) := by
  simp only [serve, serveObject, isStored, Method.change?, Option.getD_some, set_of_stored]

/-- What is not stored is not found. -/
theorem serve_get_absent (absent : server.stored (objects, name) = none)
    (query : List (String × String)) :
    server.serve ⟨.get, .object objects name, query, none⟩ =
      (Store.refusal 404 "NotFound", server) := by
  simp only [serve, serveObject, absent]

/-- What is sent takes the place of what is stored. -/
theorem serve_put {object : Json} (isStored : server.stored (objects, name) = some object)
    (query : List (String × String)) (body : Json) :
    server.serve ⟨.put, .object objects name, query, some body⟩ =
      (Store.reply body, server.set (objects, name) (some body)) := by
  simp only [serve, serveObject, isStored, Method.change?, Option.getD_some]

/-- What is new is stored under its name. -/
theorem serve_post (absent : server.stored (objects, name) = none)
    (query : List (String × String)) {body : Json} (named : body.name? = some (.str name)) :
    server.serve ⟨.post, .collection objects, query, some body⟩ =
      (Store.reply body, server.set (objects, name) (some body)) := by
  simp only [serve, serveCreation, named, absent]

/-- A merge patch of the status changes the status. -/
theorem serve_patch_status {object : Json} (isStored : server.stored (objects, name) = some object)
    (query : List (String × String)) (patch : Json) :
    server.serve ⟨.patch .merge, .status objects name, query, some patch⟩ =
      (Store.reply (object.withStatusOf (patch.mergePatch object)),
        server.set (objects, name) (some (object.withStatusOf (patch.mergePatch object)))) := by
  simp only [serve, serveObject, isStored, Method.change?, Option.join_some, Option.map_some,
    Option.getD_some]

/-- A request about what is stored under one name leaves everything else as it is. -/
theorem stored_serveObject_of_ne {key other : Collection × String} (different : other ≠ key)
    (change : Json → Option (Option Json)) :
    (server.serveObject key change).2.stored other = server.stored other := by
  unfold serveObject
  split
  · rfl
  · split
    · rfl
    · exact stored_set_of_ne _ _ different

/-- A request to store a new object leaves the objects of other collections as they are. -/
theorem stored_serveCreation_of_ne {other : Collection × String} (different : other.1 ≠ objects)
    (body : Json) : (server.serveCreation objects body).2.stored other = server.stored other := by
  unfold serveCreation
  split
  · split
    · rfl
    · exact stored_set_of_ne _ _ fun same => different (congrArg Prod.fst same)
  · rfl

/-- A request leaves the objects of other collections as they are. -/
theorem stored_serve_of_ne {request : Request} {other : Collection × String}
    (elsewhere : request.endpoint.objects? ≠ some other.1) :
    (server.serve request).2.stored other = server.stored other := by
  obtain ⟨method, endpoint, query, body⟩ := request
  cases endpoint with
  | groupResources apiVersion => rfl
  | collection objects =>
    have different : other.1 ≠ objects := fun same => elsewhere (congrArg some same.symm)
    simp only [serve]
    split
    · exact stored_serveCreation_of_ne different _
    · rfl
  | object objects name | status objects name =>
    have different : other ≠ (objects, name) := by
      rintro rfl
      exact elsewhere rfl
    exact stored_serveObject_of_ne different _

end Server

/-! ### Alone with a server -/

/-- What a program meets besides a server: the readings of the clock and the state of the
cluster. -/
structure Surroundings where
  clock : Nat → Time.Instant
  cluster : SteadyCluster

/-- How far a program has come that is alone with a server. -/
structure Scene where
  server : Server
  /-- How often the clock was read. -/
  readings : Nat
  /-- What was sent, in order. -/
  sent : List Request

namespace Scene

/-- What a request comes to. -/
def after (scene : Scene) (request : Request) : Scene :=
  { scene with server := (scene.server.serve request).2, sent := scene.sent ++ [request] }

/-- What a reading of the clock comes to. -/
def tick (scene : Scene) : Scene := { scene with readings := scene.readings + 1 }

end Scene

/-- Answers questions: requests are served, the clock gives its next reading, and the state of the
cluster is as it is. -/
def Surroundings.respond (around : Surroundings) :
    (question : world.Question) → Scene → world.Answer question × Scene
  | .send request, scene => ((scene.server.serve request).1, scene.after request)
  | .clock, scene => (around.clock scene.readings, scene.tick)
  | .look query, scene => (around.cluster.answer query, scene)

namespace Scene

variable {around : Surroundings} {α : Type} (scene : Scene)

/-- The clock is read. -/
theorem run_readClock :
    readClock.run around.respond scene = (around.clock scene.readings, scene.tick) := rfl

/-- A request that can be sent is sent, and its reply is read. -/
theorem run_send (read : Reply → Except ApiError α) {request : Request}
    (sendable : request.IsSendable) :
    (ApiCall.send read request).run.run around.respond scene =
      (read (scene.server.serve request).1, scene.after request) := by
  obtain ⟨uri, address⟩ := sendable
  rw [ApiCall.send, address]
  rfl

/-- A request that is served is answered with what can be read. -/
theorem run_exchange {decode : Decoder α} {request : Request} (sendable : request.IsSendable)
    {object : Json} {server : Server} {a : α}
    (served : scene.server.serve request = (Store.reply object, server))
    (readable : decode object = .ok a) :
    (ApiCall.exchange decode request).run.run around.respond scene =
      (.ok a, scene.after request) := by
  rw [ApiCall.exchange, run_send scene _ sendable, served, Store.read_reply readable]

/-- A call for an object that has a name is made. -/
theorem run_byName {name : String} (named : name ≠ "") (call : ApiCall α) :
    (ApiCall.byName name call).run.run around.respond scene =
      call.run.run around.respond scene := by
  rw [ApiCall.byName, if_neg named]

/-- What reading an object comes to. -/
def fetched (scene : Scene) (α : Type) [Resource α] (space name : String) : Scene :=
  scene.after (ApiCall.readRequest α space name)

/-- Reading an object changes nothing that is stored. -/
@[simp] theorem server_fetched (α : Type) [Resource α] (space name : String) :
    (scene.fetched α space name).server = scene.server := by
  cases stored : scene.server.stored (ApiCall.objects α (some space), name) with
  | none => exact congrArg Prod.snd (Server.serve_get_absent stored [])
  | some object => exact congrArg Prod.snd (Server.serve_get stored [])

section Reading

variable [resource : Resource α] {space name : String}

/-- An object is looked for. -/
theorem run_get? (named : name ≠ "") (sendable : (ApiCall.readRequest α space name).IsSendable) :
    (ApiCall.get? (some space) name : ApiCall (Option α)).run.run around.respond scene =
      (ApiCall.absenceIsNone
        ((scene.server.serve (ApiCall.readRequest α space name)).1.read resource.decode),
        scene.fetched α space name) := by
  have sends : (ApiCall.get (some space) name : ApiCall α).run.run around.respond scene =
      ((scene.server.serve (ApiCall.readRequest α space name)).1.read resource.decode,
        scene.fetched α space name) :=
    (run_byName scene named _).trans (run_send scene _ sendable)
  rw [ApiCall.get?, ExceptT.run_mk, map_eq_pure_bind, Program.bind_eq_bind, Program.run_bind, sends]
  rfl

/-- An object that is stored and can be read is found. -/
theorem run_get?_stored (named : name ≠ "")
    (sendable : (ApiCall.readRequest α space name).IsSendable) {object : Json} {a : α}
    (stored : scene.server.stored (ApiCall.objects α (some space), name) = some object)
    (readable : resource.decode object = .ok a) :
    (ApiCall.get? (some space) name : ApiCall (Option α)).run.run around.respond scene =
      (.ok (some a), scene.fetched α space name) := by
  have served : scene.server.serve (ApiCall.readRequest α space name) =
      (Store.reply object, scene.server) := Server.serve_get stored []
  rw [run_get? scene named sendable, served, Store.read_reply readable]
  rfl

/-- An object that is not stored is not found. -/
theorem run_get?_absent (named : name ≠ "")
    (sendable : (ApiCall.readRequest α space name).IsSendable)
    (absent : scene.server.stored (ApiCall.objects α (some space), name) = none) :
    (ApiCall.get? (some space) name : ApiCall (Option α)).run.run around.respond scene =
      (.ok none, scene.fetched α space name) := by
  have served : scene.server.serve (ApiCall.readRequest α space name) =
      (Store.refusal 404 "NotFound", scene.server) := Server.serve_get_absent absent []
  rw [run_get? scene named sendable, served]
  rfl

end Reading

/-- What is compiled against the state of the cluster comes to what its answers make of it. -/
theorem run_answeredBy (p : Program clusterState α) :
    (p.answeredBy lookUp).run around.respond scene = (p.eval around.cluster.answer, scene) := by
  induction p with
  | done a => rfl
  | ask query next ih => exact ih _

/-- What a request sets is stored. -/
theorem stored_after {request : Request} {reply : Reply} {key : Collection × String}
    {object : Option Json}
    (served : scene.server.serve request = (reply, scene.server.set key object)) :
    (scene.after request).server.stored key = object := by
  rw [after, served, Server.stored_set]

/-- A request leaves the objects of other collections as they are. -/
theorem stored_after_of_ne {request : Request} {other : Collection × String}
    (elsewhere : request.endpoint.objects? ≠ some other.1) :
    (scene.after request).server.stored other = scene.server.stored other :=
  Server.stored_serve_of_ne elsewhere

/-- A request about objects of a collection leaves those of others as they are. -/
theorem agreesBut_after {request : Request} {objects : Collection}
    (isAbout : request.endpoint.objects? = some objects) :
    (scene.after request).server.AgreesBut scene.server objects := by
  intro key elsewhere
  refine scene.stored_after_of_ne ?_
  rw [isAbout]
  exact fun same => elsewhere (Option.some.inj same).symm

/-- A program that asks about certain collections only leaves the objects of others as they are. -/
theorem stored_run_of_asks {permitted : WorldQuestion → Prop} {other : Collection × String}
    (elsewhere : ∀ request, permitted (.send request) →
      request.endpoint.objects? ≠ some other.1)
    {p : Program world α} (asks : p.Asks permitted) :
    (p.run around.respond scene).2.server.stored other = scene.server.stored other := by
  induction p generalizing scene with
  | done a => rfl
  | ask question next ih =>
    obtain ⟨isPermitted, later⟩ := asks
    rw [Program.run, ih _ _ (later _)]
    cases question with
    | send request => exact scene.stored_after_of_ne (elsewhere request isPermitted)
    | clock | look query => rfl

end Scene

end PeerFirewall
