import PeerFirewall.Admission.Review
import PeerFirewall.Json.Printer
import PeerFirewall.Validation

/-!
# The admission service

The service answers reviews posted to its root. It lets a policy through if its content is well
formed and its rules are valid; what is no policy, and what is no review, gets an answer that says
so.
-/
namespace PeerFirewall

/-- A request to the service. -/
structure HttpRequest where
  method : String
  /-- The path or the whole address, with the query if there is one. -/
  path : String
  body : String
deriving DecidableEq, Repr

/-- An answer of the service; an answer with a body is JSON. -/
structure HttpResponse where
  status : Nat
  body : Option Json

namespace Admission

/-- Whether the request is about a policy, whatever the version. -/
def isPolicy (kind : ReviewedKind) : Bool :=
  Group.eqIgnoringCase kind.group Kind.policy.group &&
    Group.eqIgnoringCase kind.kind Kind.policy.kind

/-- Why a request about a policy is denied, if it is. -/
def objection? (resolvers : Resolvers) (request : AdmissionRequest) : Option String :=
  match request.object with
  | none => some "admission request missing 'object"
  | some object =>
    match object.get? "spec" with
    | none => some "admission request missing 'spec'"
    | some content =>
      match PolicySpec.decode content with
      | .error error => some error.message
      | .ok spec =>
        match resolvers.validate spec.rules with
        | .error fault => some fault.message
        | .ok () => none

/-- The answer to a review that holds a request. -/
def judge (resolvers : Resolvers) (review : AdmissionReview) (request : AdmissionRequest) :
    AdmissionResponse :=
  if isPolicy request.kind then
    ⟨review.apiVersion, review.kind, request.uid,
      match objection? resolvers request with
      | none => .allowed
      | some message => .denied message⟩
  else
    .invalid ("unsupported resource type: " ++ request.kind.group ++ "." ++ request.kind.version ++
      "." ++ request.kind.kind)

/-- The answer to a text that should be a review. -/
def answer (resolvers : Resolvers) (body : String) : AdmissionResponse :=
  match AdmissionReview.decode.readText body with
  | .error error => .invalid error.message
  | .ok review =>
    match review.request with
    | none => .invalid "failed to convert AdmissionReview into AdmissionRequest"
    | some request => judge resolvers review request

/-- What follows the scheme of an address, if it begins with one; a path has none. -/
def behindScheme? : List Char → Option (List Char)
  | [] | '/' :: _ => none
  | ':' :: '/' :: '/' :: rest => some rest
  | _ :: rest => behindScheme? rest

/-- The path that an address begins with, up to its query. -/
def pathOnly (address : List Char) : List Char :=
  address.takeWhile fun c => c ≠ '?' && c ≠ '#'

/-- The path of an address. One that names a server may leave its root out. -/
def pathOf (address : String) : String :=
  match behindScheme? address.toList with
  | none => String.ofList (pathOnly address.toList)
  | some rest =>
    match pathOnly (rest.dropWhile fun c => c ≠ '/' && c ≠ '?' && c ≠ '#') with
    | [] => "/"
    | path => String.ofList path

/-- Serves one request. -/
def serve (resolvers : Resolvers) (request : HttpRequest) : HttpResponse :=
  if request.method = "POST" ∧ pathOf request.path = "/" then
    ⟨200, some (answer resolvers request.body).encode⟩
  else ⟨404, none⟩

end Admission

end PeerFirewall
