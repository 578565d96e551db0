import PeerFirewall.Api.Status
import PeerFirewall.World

/-!
# Calls to the API server

Each call sends one request and reads its reply. A call for an object by name sends nothing if the
name is empty, and no call sends anything if the names in it make no address.
-/
namespace PeerFirewall

/-- A call: it may send requests and it may fail. -/
abbrev ApiCall (α : Type) := ExceptT ApiError (Program world) α

/-- The name under which the controller writes. -/
def controllerName : String := "connectivity-controller"

namespace ApiCall

/-- Sends a request and reads the reply. -/
def send {α : Type} (read : Reply → Except ApiError α) (request : Request) : ApiCall α :=
  match request.uri? with
  | .error fault => throw (.unsent (.badAddress fault))
  | .ok _ => ExceptT.mk (.ask (WorldQuestion.send request) fun reply => .done (read reply))

/-- Sends a request and reads a value of a type from the reply. -/
def exchange {α : Type} (decode : Decoder α) (request : Request) : ApiCall α :=
  send (Reply.read decode) request

/-- Does something about an object by its name. -/
def byName {α : Type} (name : String) (call : ApiCall α) : ApiCall α :=
  if name = "" then throw (.unsent .emptyName) else call

variable {α : Type} [resource : Resource α]

/-- The objects of the kind of a type. -/
def objects (α : Type) [resource : Resource α] («namespace» : Option String) : Collection :=
  ⟨resource.kind, «namespace»⟩

/-- Reads an object. -/
def get («namespace» : Option String) (name : String) : ApiCall α :=
  byName name (exchange resource.decode ⟨.get, .object (objects α «namespace») name, [], none⟩)

/-- Takes a refusal that says that there is no such object for an answer. -/
def absenceIsNone {α : Type} : Except ApiError α → Except ApiError (Option α)
  | .ok a => .ok (some a)
  | .error (.refused refusal) =>
    if refusal.isAbsence then .ok none else .error (.refused refusal)
  | .error error => .error error

/-- Reads an object, if there is one of that name. -/
def get? («namespace» : Option String) (name : String) : ApiCall (Option α) :=
  ExceptT.mk (absenceIsNone <$> (get «namespace» name : ApiCall α).run)

/-- Which objects of a collection a list holds. -/
structure Selector where
  labels : Option String
  fields : Option String
deriving DecidableEq, Repr

namespace Selector

/-- Every object. -/
def all : Selector := ⟨none, none⟩

/-- The objects with certain labels. -/
def byLabels (labels : String) : Selector := ⟨some labels, none⟩

/-- The query of a selector. -/
def query (selector : Selector) : List (String × String) :=
  (selector.labels.map ("labelSelector", ·)).toList ++
    (selector.fields.map ("fieldSelector", ·)).toList

end Selector

/-- The shape of what a list says about itself. -/
def listMetadata : Shape :=
  .object "ListMeta" [
    ("continue", .text),
    ("remainingItemCount", .int64),
    ("resourceVersion", .text),
    ("selfLink", .text)]

/-- Reads the items of a list; null stands for no items. -/
def decodeList {α : Type} (decode : Decoder α) : Decoder (List α) :=
  ((fun (_ : Unit) items => items.getD [])
  <$> Record.fieldWithDefault "metadata" listMetadata ()
  <*> Record.field "items" (Decoder.optional (Decoder.list decode))).decodeWhole
    "ObjectList" 0

/-- The objects of a collection. -/
def list («namespace» : Option String) (selector : Selector) : ApiCall (List α) :=
  exchange (decodeList resource.decode)
    ⟨.get, .collection (objects α «namespace»), selector.query, none⟩

/-- The query by which a writer names itself. -/
def writtenBy (writer : String) : List (String × String) := [("fieldManager", writer)]

/-- Stores a new object. -/
def create («namespace» : Option String) (query : List (String × String)) (object : α) :
    ApiCall α :=
  exchange resource.decode
    ⟨.post, .collection (objects α «namespace»), query, some (resource.encode object)⟩

/-- Stores an object in place of the one of that name. -/
def replace («namespace» : Option String) (name : String) (query : List (String × String))
    (object : α) : ApiCall α :=
  byName name (exchange resource.decode
    ⟨.put, .object (objects α «namespace») name, query, some (resource.encode object)⟩)

/-- Changes parts of an object. -/
def patch («namespace» : Option String) (name : String) (format : PatchFormat)
    (query : List (String × String)) (body : Json) : ApiCall α :=
  byName name (exchange resource.decode
    ⟨.patch format, .object (objects α «namespace») name, query, some body⟩)

/-- Changes parts of the status of an object. -/
def patchStatus («namespace» : Option String) (name : String) (body : Json) : ApiCall α :=
  byName name (exchange resource.decode
    ⟨.patch .merge, .status (objects α «namespace») name, [], some body⟩)

/-- What the reply to a deletion says. -/
inductive Deletion (α : Type) where
  /-- The object as it is while its deletion is pending. -/
  | pending (object : α)
  /-- A status stands for the object. -/
  | reported

/-- Reads the reply to a deletion: a status, if it calls itself one, else the object. -/
def decodeDeletion {α : Type} (decode : Decoder α) : Decoder (Deletion α) := fun value =>
  if value.get? "kind" = some (.str "Status") then (Status.check value).map fun _ => .reported
  else (decode value).map .pending

/-- Asks for the deletion of an object. -/
def delete (α : Type) [resource : Resource α] («namespace» : Option String) (name : String) :
    ApiCall (Deletion α) :=
  byName name (send (Reply.readSound (decodeDeletion resource.decode))
    ⟨.delete, .object (objects α «namespace») name, [], some (.obj [])⟩)

/-- Reads the kind of one entry of a list of served kinds. -/
def decodeServedKind : Decoder String :=
  (Record.lenientField "kind" Decoder.string "").decodeBuiltIn "APIResource" [
    ("categories", .texts),
    ("group", .text),
    ("name", .text),
    ("namespaced", .flag),
    ("shortNames", .texts),
    ("singularName", .text),
    ("storageVersionHash", .text),
    ("verbs", .texts),
    ("version", .text)]

/-- Reads a list of served kinds. -/
def decodeServedKinds : Decoder (List String) :=
  ((fun () () kinds => kinds)
  <$> Resource.fixedText "apiVersion" "v1"
  <*> Resource.fixedText "kind" "APIResourceList"
  <*> Record.lenientField "resources" (Decoder.list decodeServedKind) []).decodeBuiltIn
    "APIResourceList" [("groupVersion", .text)]

end ApiCall

/-- Whether the API server serves a kind; not if it does not answer. -/
def isServed (kind : Kind) : Program world Bool :=
  (fun
    | .ok kinds => kinds.contains kind.kind
    | .error _ => false) <$>
  (ApiCall.exchange ApiCall.decodeServedKinds
    ⟨.get, .groupResources kind.apiVersion, [], none⟩).run

end PeerFirewall
