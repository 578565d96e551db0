import PeerFirewall.Watch.Topic

/-!
# A stand-in for the API server

A rehearsal runs the controller without a cluster. Requests are answered from a fixed set of
objects: an object by its path, the objects of a collection by the name of the collection. Nothing
is stored; what is sent comes back as it is.
-/
namespace PeerFirewall

/-- The objects of a rehearsal, by path or by the name of their collection. -/
structure Fixture where
  objects : List (String × Json)

namespace Request

/-- Whether the request opens a watch. -/
def isWatch (request : Request) : Bool := (request.query.lookup "watch").isSome

/-- The name of a collection: its plural name; for pods also the labels they are listed by. -/
def collectionName (objects : Collection) (query : List (String × String)) : String :=
  if objects.kind = .pod then
    objects.kind.plural ++ ":" ++ (query.lookup "labelSelector").getD ""
  else objects.kind.plural

/-- The path of the object that a request changes, also where it changes only its status. -/
def objectPath (request : Request) : String :=
  let path := request.uri.path.toList
  let status := "/status".toList
  String.ofList
    (if status.isSuffixOf path then path.take (path.length - status.length) else path)

end Request

namespace Topic

/-- The name of the collection that a topic is about. -/
def name (topic : Topic) : String :=
  Request.collectionName ⟨topic.kind, none⟩ topic.selector.query

end Topic

namespace Reply

/-- A reply with a JSON body. -/
def ok (value : Json) : Reply := ⟨200, .json value⟩

/-- The status object that reports a failure. -/
def failureStatus (code : Nat) (reason message : String) : Json :=
  .obj [("apiVersion", .str "v1"), ("code", .int code), ("kind", .str "Status"),
    ("message", .str message), ("metadata", .obj []), ("reason", .str reason),
    ("status", .str "Failure")]

/-- The reply where there is no such object. -/
def notFound : Reply := ⟨404, .json (failureStatus 404 "NotFound" "NotFound")⟩

/-- The reply to a deletion. -/
def deleted : Reply :=
  .ok (.obj [("apiVersion", .str "v1"), ("kind", .str "Status"), ("metadata", .obj []),
    ("status", .str "Success")])

/-- The reply that lists objects. -/
def listOf (items : Json) : Reply :=
  .ok (.obj [("items", items), ("metadata", .obj [("resourceVersion", .str "1")])])

end Reply

namespace Fixture

/-- The fixture with some objects changed. -/
def put (fixture : Fixture) (objects : List (String × Json)) : Fixture :=
  ⟨objects ++ fixture.objects⟩

/-- The reply with the object at a path. -/
def objectReply (fixture : Fixture) (path : String) : Reply :=
  match fixture.objects.lookup path with
  | some object => .ok object
  | none => .notFound

/-- The reply to a request that only reads. -/
def read (fixture : Fixture) (request : Request) : Reply :=
  match fixture.objects.lookup request.uri.path, request.endpoint with
  | some object, _ => .ok object
  | none, .collection objects =>
    match fixture.objects.lookup (Request.collectionName objects request.query) with
    | some items => .listOf items
    | none => .notFound
  | none, _ => .notFound

/-- The reply to a request. A watch stays silent. -/
def reply (fixture : Fixture) (request : Request) : Reply :=
  match request.method with
  | .get => if request.isWatch then ⟨200, .text ""⟩ else fixture.read request
  | .delete => .deleted
  | .patch _ => fixture.objectReply request.objectPath
  | .post | .put => .ok (request.body.getD .null)

end Fixture

/-- The world of a rehearsal. -/
structure Stage where
  fixture : Fixture
  /-- The state of the cluster where it is not read through the API server. -/
  state : (query : Query) → query.Answer
  /-- The time that every look at the clock shows. -/
  time : Time.Instant

namespace Stage

/-- The answer to a question, and the requests so far, the last one first. -/
def respond (stage : Stage) :
    (question : WorldQuestion) → List Request → question.Answer × List Request
  | .send request, sent => (stage.fixture.reply request, request :: sent)
  | .clock, sent => (stage.time, sent)
  | .look query, sent => (stage.state query, sent)

/-- Runs a program and returns the requests it sent, in order. -/
def perform {α : Type} (stage : Stage) (program : Program world α) : α × List Request :=
  let (value, sent) := program.run stage.respond []
  (value, sent.reverse)

end Stage

end PeerFirewall
