import PeerFirewall.Api.Request
import PeerFirewall.Json.Printer

/-!
# Replies of the API server

A reply is a failure if its HTTP status is one of the 400s or 500s. What went wrong is then taken
from its body, whose code and reason need not agree with the status; a body that does not say is
quoted. Any other reply has to be the object that was asked for.
-/
namespace PeerFirewall

/-- The body of a reply: text, or the JSON value that the text stands for. -/
inductive Content where
  | json (value : Json)
  | text (raw : String)
deriving DecidableEq

/-- A reply of the API server. -/
structure Reply where
  status : Nat
  content : Content
deriving DecidableEq

/-- What the API server says about a failure. -/
structure Refusal where
  status : String
  message : String
  reason : String
  code : UInt16
deriving DecidableEq, Repr

/-- Why a request cannot be sent. -/
inductive RequestFault where
  /-- An object without a name was asked for. -/
  | emptyName
  | badAddress (fault : UriFault)
deriving DecidableEq, Repr

/-- Why a call to the API server came to nothing. -/
inductive ApiError where
  | refused (refusal : Refusal)
  /-- The reply is not what was asked for. -/
  | undecodable (fault : DecodeError)
  /-- Nothing was sent. -/
  | unsent (fault : RequestFault)
deriving DecidableEq, Repr

/-- The standard phrase for an HTTP status that reports a failure. -/
def reasonPhrase? : Nat → Option String
  | 400 => "Bad Request"
  | 401 => "Unauthorized"
  | 402 => "Payment Required"
  | 403 => "Forbidden"
  | 404 => "Not Found"
  | 405 => "Method Not Allowed"
  | 406 => "Not Acceptable"
  | 407 => "Proxy Authentication Required"
  | 408 => "Request Timeout"
  | 409 => "Conflict"
  | 410 => "Gone"
  | 411 => "Length Required"
  | 412 => "Precondition Failed"
  | 413 => "Payload Too Large"
  | 414 => "URI Too Long"
  | 415 => "Unsupported Media Type"
  | 416 => "Range Not Satisfiable"
  | 417 => "Expectation Failed"
  | 418 => "I'm a teapot"
  | 421 => "Misdirected Request"
  | 422 => "Unprocessable Entity"
  | 423 => "Locked"
  | 424 => "Failed Dependency"
  | 426 => "Upgrade Required"
  | 428 => "Precondition Required"
  | 429 => "Too Many Requests"
  | 431 => "Request Header Fields Too Large"
  | 451 => "Unavailable For Legal Reasons"
  | 500 => "Internal Server Error"
  | 501 => "Not Implemented"
  | 502 => "Bad Gateway"
  | 503 => "Service Unavailable"
  | 504 => "Gateway Timeout"
  | 505 => "HTTP Version Not Supported"
  | 506 => "Variant Also Negotiates"
  | 507 => "Insufficient Storage"
  | 508 => "Loop Detected"
  | 510 => "Not Extended"
  | 511 => "Network Authentication Required"
  | _ => none

namespace Refusal

/-- The fields by which a body explains a failure. -/
def fields : Record Refusal :=
  Refusal.mk
  <$> Record.field "status" Decoder.string
  <*> Record.fieldWithDefault "message" Decoder.string ""
  <*> Record.fieldWithDefault "reason" Decoder.string ""
  <*> Record.field "code" Decoder.uint16

/-- Reads what the API server says about a failure. -/
def decode : Decoder Refusal := fields.decode "ErrorResponse"

/-- What is known of a failure that the body does not explain. -/
def unexplained (status : Nat) (raw : String) : Refusal where
  status := toString status ++ " " ++ (reasonPhrase? status).getD "<unknown status code>"
  message := Text.quoted raw
  reason := "Failed to parse error data"
  code := status.toUInt16

/-- Message and reason. -/
def summary (refusal : Refusal) : String := refusal.message ++ ": " ++ refusal.reason

/-- All fields, as an error message shows them. -/
def details (refusal : Refusal) : String :=
  "ErrorResponse \x7b status: " ++ Text.quoted refusal.status ++
    ", message: " ++ Text.quoted refusal.message ++
    ", reason: " ++ Text.quoted refusal.reason ++
    ", code: " ++ toString refusal.code ++ " \x7d"

/-- Whether the object does not exist, by the reason given. -/
def isAbsence (refusal : Refusal) : Bool := refusal.reason = "NotFound"

end Refusal

namespace RequestFault

/-- The text of a fault. -/
def message : RequestFault → String
  | emptyName => "failed to validate request: A non-empty name is required"
  | badAddress fault => "failed to build request: " ++ fault.message

/-- The texts of what is behind a fault. -/
def causes : RequestFault → List String
  | emptyName => []
  | badAddress fault => [fault.message]

end RequestFault

namespace ApiError

/-- The text of the error. -/
def message : ApiError → String
  | refused refusal => "ApiError: " ++ refusal.summary ++ " (" ++ refusal.details ++ ")"
  | undecodable fault => "Error deserializing response: " ++ fault.message
  | unsent fault => "Failed to build request: " ++ fault.message

/-- The texts of what is behind the error. -/
def causes : ApiError → List String
  | refused refusal => [refusal.summary]
  | undecodable fault => [fault.message]
  | unsent fault => fault.message :: fault.causes

/-- Whether the API server refused with that code. -/
def hasCode (code : UInt16) : ApiError → Bool
  | refused refusal => refusal.code = code
  | undecodable _ | unsent _ => false

/-- Whether a write came too late: another one was stored since the object was read. -/
def isConflict : ApiError → Bool := hasCode 409

/-- Whether the object to act on does not exist. -/
def isNotFound : ApiError → Bool := hasCode 404

end ApiError

namespace Content

/-- The text of a body. -/
def raw : Content → String
  | json value => value.write
  | text raw => raw

/-- Reads a value of a type from a body. -/
def read {α : Type} (decode : Decoder α) : Content → Except DecodeError α
  | json value => (decode value).mapError DecodeError.inText
  | text raw => decode.readText raw

end Content

namespace Reply

/-- Whether the reply reports a failure. -/
def isFailure (reply : Reply) : Bool := 400 ≤ reply.status ∧ reply.status < 600

/-- What a failure is about. -/
def refusal (reply : Reply) : Refusal :=
  match reply.content.read Refusal.decode with
  | .ok refusal => refusal
  | .error _ => .unexplained reply.status reply.content.raw

/-- Reads a value of a type from a reply. -/
def read {α : Type} (decode : Decoder α) (reply : Reply) : Except ApiError α :=
  if reply.isFailure then .error (.refused reply.refusal)
  else (reply.content.read decode).mapError ApiError.undecodable

/-- Reads a value of a type from a reply that has to be sound JSON throughout. -/
def readSound {α : Type} (decode : Decoder α) (reply : Reply) : Except ApiError α :=
  match reply.read (Decoder.keep 0) with
  | .error error => .error error
  | .ok _ => reply.read decode

end Reply

end PeerFirewall
