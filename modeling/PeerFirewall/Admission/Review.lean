import PeerFirewall.Api.Status
import PeerFirewall.Resource.Kind

/-!
# Admission reviews

The API server asks an admission service about an object by a review that holds a request, and
reads the answer from a review that holds a response. Of a request only what the answer depends on
is kept; all its fields are checked when it is read.
-/
namespace PeerFirewall

/-- Group, version and kind of the object under review. -/
structure ReviewedKind where
  group : String
  version : String
  kind : String
deriving DecidableEq, Repr

/-- What is asked about. -/
structure AdmissionRequest where
  uid : String
  kind : ReviewedKind
  /-- The members of the object, if there is one. -/
  object : Option Json

/-- A review that asks. -/
structure AdmissionReview where
  apiVersion : String
  kind : String
  request : Option AdmissionRequest

/-- The verdict on a request. -/
inductive Verdict where
  | allowed
  | denied (message : String)
  /-- The request could not be judged. -/
  | invalid (message : String)
deriving DecidableEq, Repr

/-- A review that answers. -/
structure AdmissionResponse where
  apiVersion : String
  kind : String
  uid : String
  verdict : Verdict
deriving DecidableEq, Repr

namespace ReviewedKind

/-- The fields of a kind. -/
def fields : Record ReviewedKind :=
  ReviewedKind.mk
  <$> Record.field "group" Decoder.string
  <*> Record.field "version" Decoder.string
  <*> Record.field "kind" Decoder.string

/-- Reads group, version and kind. -/
def decode : Decoder ReviewedKind := fields.decode "GroupVersionKind"

/-- The fields of the plural name of a kind, of which nothing is kept. -/
def resourceFields : Record Unit :=
  (fun (_ _ _ _ : String) => ())
  <$> Record.field "group" Decoder.string
  <*> Record.field "version" Decoder.string
  <*> Record.field "resource" Decoder.string
  <*> Record.fieldWithDefault "api_version" Decoder.string ""

/-- Checks group, version and plural name. -/
def checkResource : Decoder Unit := resourceFields.decode "GroupVersionResource"

end ReviewedKind

namespace AdmissionRequest

/-- The operations a request may be about. -/
def operations : List (String × Unit) :=
  [("CREATE", ()), ("UPDATE", ()), ("DELETE", ()), ("CONNECT", ())]

/-- The shape of who asks. -/
def userShape : Shape :=
  .object "UserInfo" [
    ("extra", .map .texts),
    ("groups", .texts),
    ("uid", .text),
    ("username", .text)]

/-- How many arrays and objects a review has around the object it is about. -/
def objectDepth : Nat := 2

/-- Reads an object of any kind: its metadata has to be sound, everything else is kept. -/
def decodeObject : Decoder Json := fun value =>
  match (Record.fieldWithDefault "metadata" Metadata.decode .empty).decodeWhole
      "DynamicObject" objectDepth value with
  | .ok _ => .ok value.sorted
  | .error error => .error error

/-- The fields of a request. -/
def fields : Record AdmissionRequest :=
  (fun uid kind (_ : Unit) (_ : Option String) (_ : Option ReviewedKind) (_ : Option Unit)
      (_ : Option String) (_ : String) (_ : Option String) (_ _ : Unit) object
      (_ : Option Json) (_ : Bool) (_ : Option Json) => AdmissionRequest.mk uid kind object)
  <$> Record.field "uid" Decoder.string
  <*> Record.field "kind" ReviewedKind.decode
  <*> Record.field "resource" ReviewedKind.checkResource
  <*> Record.optionalField "subResource" Decoder.string
  <*> Record.optionalField "requestKind" ReviewedKind.decode
  <*> Record.optionalField "requestResource" ReviewedKind.checkResource
  <*> Record.optionalField "requestSubResource" Decoder.string
  <*> Record.fieldWithDefault "name" Decoder.string ""
  <*> Record.optionalField "namespace" Decoder.string
  <*> Record.field "operation" (Decoder.choice operations)
  <*> Record.field "userInfo" userShape
  <*> Record.nullableField "object" decodeObject
  <*> Record.nullableField "oldObject" decodeObject
  <*> Record.fieldWithDefault "dryRun" Decoder.bool false
  <*> Record.optionalField "options" (Decoder.keep objectDepth)

/-- Reads a request. -/
def decode : Decoder AdmissionRequest := fields.decode "AdmissionRequest"

end AdmissionRequest

namespace AdmissionReview

/-- Checks the response that a review that asks may hold as well. -/
def checkResponse : Decoder Unit :=
  ((fun (_ : String) (_ : Bool) (_ : Unit) (_ : Option (List UInt8)) (_ : Option Unit) (_ : Unit)
      (_ : Option (List String)) => ())
  <$> Record.field "uid" Decoder.string
  <*> Record.field "allowed" Decoder.bool
  <*> Record.field "status" Status.check
  <*> Record.nullableField "patch" (Decoder.list Decoder.uint8)
  <*> Record.nullableField "patchType" (Decoder.choice [("JSONPatch", ())])
  <*> Record.fieldWithDefault "auditAnnotations" (Shape.map .text) ()
  <*> Record.optionalField "warnings" (Decoder.list Decoder.string)).decode "AdmissionResponse"

/-- The fields of a review beside those that say what it is. -/
def contentFields : Record (Option AdmissionRequest) :=
  (fun request (_ : Option Unit) => request)
  <$> Record.optionalField "request" AdmissionRequest.decode
  <*> Record.optionalField "response" checkResponse

/-- The fields that say what a review is. -/
def typeFields : Record (String × String) :=
  Prod.mk
  <$> Record.field "apiVersion" Decoder.string
  <*> Record.field "kind" Decoder.string

/-- Reads a review that asks: its content first, then, from what is left, what it is. -/
def decode : Decoder AdmissionReview := fun value => do
  let request ← contentFields.decodeWhole "AdmissionReview" 0 value
  let (apiVersion, kind) ← typeFields.decodeAgain "AdmissionReview" value
  return ⟨apiVersion, kind, request⟩

end AdmissionReview

namespace Verdict

/-- Whether the object may be stored. -/
def isAllowed : Verdict → Bool
  | allowed => true
  | denied _ | invalid _ => false

/-- The status that explains a verdict. -/
def status : Verdict → Json
  | allowed => .obj []
  | denied message => .obj [("message", .str message)]
  | invalid message =>
    .obj [("status", .str "Failure"), ("message", .str message), ("reason", .str "InvalidRequest")]

end Verdict

namespace AdmissionResponse

/-- The answer where there is no request to answer. -/
def invalid (message : String) : AdmissionResponse :=
  ⟨"admission.k8s.io/v1beta1", "AdmissionReview", "", .invalid message⟩

/-- A review that answers as an object. -/
def encode (response : AdmissionResponse) : Json :=
  .obj [
    ("apiVersion", .str response.apiVersion),
    ("kind", .str response.kind),
    ("response", .obj [
      ("uid", .str response.uid),
      ("allowed", .bool response.verdict.isAllowed),
      ("status", response.verdict.status)])]

end AdmissionResponse

end PeerFirewall
