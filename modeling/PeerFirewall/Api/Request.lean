import PeerFirewall.Api.Uri
import PeerFirewall.Resource.Kind

/-!
# Requests to the API server

A request has a method and an address, and may have a query and a body. Addresses are built from
the kind of the objects they are about, so no request can mix up the path of one kind with that of
another.
-/
namespace PeerFirewall

/-- The objects of a kind, in one namespace or in all of them. -/
structure Collection where
  kind : Kind
  «namespace» : Option String
deriving DecidableEq, Repr

/-- What a request is addressed to. -/
inductive Endpoint where
  /-- The list of the kinds that are served under a group and version. -/
  | groupResources (apiVersion : String)
  | collection (objects : Collection)
  | object (objects : Collection) (name : String)
  /-- The status of an object, which is written apart from its content. -/
  | status (objects : Collection) (name : String)
deriving DecidableEq, Repr

/-- How the body of a patch is to be applied. -/
inductive PatchFormat where
  /-- A list of operations, each at a path; a failing test refuses them all. -/
  | json
  /-- An object laid over the stored one, null erasing a member. -/
  | merge
  /-- The part of the object that the sender wants to own. -/
  | apply
  /-- A merge that follows the schema of the kind. -/
  | strategicMerge
deriving DecidableEq, Repr

/-- What is to be done at an address. -/
inductive Method where
  | get
  | post
  | put
  | delete
  | patch (format : PatchFormat)
deriving DecidableEq, Repr

/-- A request to the API server. -/
structure Request where
  method : Method
  endpoint : Endpoint
  query : List (String × String)
  body : Option Json
deriving DecidableEq

namespace Collection

/-- The path of a collection; the core group is served apart from the named ones. -/
def path (objects : Collection) : String :=
  (if objects.kind.group = "" then "/api/" else "/apis/") ++ objects.kind.apiVersion ++ "/" ++
    (match objects.namespace with
      | none => ""
      | some name => "namespaces/" ++ name ++ "/") ++
    objects.kind.plural

end Collection

namespace Endpoint

/-- The path of an address. -/
def path : Endpoint → String
  | groupResources apiVersion => "/apis/" ++ apiVersion
  | collection objects => objects.path
  | object objects name => objects.path ++ "/" ++ name
  | status objects name => objects.path ++ "/" ++ name ++ "/status"

/-- The objects that an address is about. -/
def objects? : Endpoint → Option Collection
  | groupResources _ => none
  | collection objects | object objects _ | status objects _ => some objects

/-- Whether an address is about objects of that kind. -/
def concerns (kind : Kind) (endpoint : Endpoint) : Bool :=
  endpoint.objects?.any (·.kind = kind)

end Endpoint

namespace PatchFormat

/-- The content type of a patch. -/
def contentType : PatchFormat → String
  | json => "application/json-patch+json"
  | merge => "application/merge-patch+json"
  | apply => "application/apply-patch+yaml"
  | strategicMerge => "application/strategic-merge-patch+json"

end PatchFormat

namespace Method

/-- The name of a method. -/
def name : Method → String
  | get => "GET"
  | post => "POST"
  | put => "PUT"
  | delete => "DELETE"
  | patch _ => "PATCH"

/-- The content type, where the method says how the body is to be applied. -/
def contentType? : Method → Option String
  | patch format => some format.contentType
  | get | post | put | delete => none

end Method

namespace Request

/-- Whether the request changes nothing. -/
def isRead (request : Request) : Bool := request.method = .get

/-- The address of the request as text. Only a request that reads one object, or what a group
serves, has no query; any other has one, be it empty. -/
def target (request : Request) : String :=
  request.endpoint.path ++
    (match request.method, request.endpoint with
      | .get, .object _ _ | .get, .groupResources _ => ""
      | _, _ =>
        if request.query.isEmpty then "?" else "?&" ++ Uri.encodeQuery request.query)

/-- The address that the server sees, if the request can be sent. -/
def uri? (request : Request) : Except UriFault Uri := Uri.parse request.target

/-- The address that is shown: a request that cannot be sent has the one that it was meant for. -/
def uri (request : Request) : Uri :=
  match request.uri? with
  | .ok uri => uri
  | .error _ => ⟨request.endpoint.path, request.query⟩

/-- The value of a parameter of the query, as it is shown behind the path. -/
def shownParameter (uri : Uri) (name : String) : String :=
  match uri.parameter? name with
  | some value => " " ++ name ++ "=" ++ value
  | none => ""

/-- The request on one line: method, path, and what it selects. -/
def line (request : Request) : String :=
  let uri := request.uri
  request.method.name ++ " " ++ uri.path ++ shownParameter uri "fieldSelector" ++
    shownParameter uri "labelSelector" ++ shownParameter uri "watch"

/-- The request as an object: method, path, and what else it has. -/
def encode (request : Request) : Json :=
  let uri := request.uri
  .record [
    ("method", some (.str request.method.name)),
    ("path", some (.str uri.path)),
    ("query",
      if uri.query.isEmpty then none
      else some (Json.sorted (.obj (uri.query.map fun entry => (entry.1, .str entry.2))))),
    ("type", request.method.contentType?.map .str),
    ("body", request.body)]

end Request

end PeerFirewall
