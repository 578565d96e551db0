import PeerFirewall.Resource.Kind

/-!
# Events

An event tells the users of an object what happened to it. An event that happens again is a series:
the first one, with how often and when it was last seen.
-/
namespace PeerFirewall

open Time (Instant)

/-- Whether an event calls for attention. -/
inductive EventType where
  | normal
  | warning
deriving DecidableEq, Repr

/-- What an event says. -/
structure EventNote where
  type : EventType
  reason : String
  action : String
  note : String
deriving DecidableEq, Repr

/-- The object that an event is about. -/
structure EventSubject where
  kind : Kind
  name : Option String
  «namespace» : Option String
  uid : Option String
deriving DecidableEq, Repr

/-- How often an event was seen, and when last. -/
structure EventSeries where
  count : Nat
  lastObserved : Instant
deriving DecidableEq, Repr

/-- An event. -/
structure ClusterEvent where
  name : String
  time : Instant
  content : EventNote
  subject : EventSubject
  controller : String
  «instance» : String
  series : Option EventSeries
deriving DecidableEq, Repr

/-- The name of a type of events. -/
def EventType.name : EventType → String
  | normal => "Normal"
  | warning => "Warning"

namespace EventSubject

/-- The object of that kind with that metadata. -/
def ofMetadata (kind : Kind) (metadata : Metadata) : EventSubject :=
  ⟨kind, metadata.name, metadata.namespace, metadata.uid⟩

/-- An object as events refer to it. -/
def encode (subject : EventSubject) : Json :=
  .record [
    ("apiVersion", some (.str subject.kind.apiVersion)),
    ("kind", some (.str subject.kind.kind)),
    ("name", subject.name.map .str),
    ("namespace", subject.namespace.map .str),
    ("uid", subject.uid.map .str)]

/-- The shape of a reference to an object. -/
def shape : Shape :=
  .object "ObjectReference" [
    ("apiVersion", .text),
    ("fieldPath", .text),
    ("kind", .text),
    ("name", .text),
    ("namespace", .text),
    ("resourceVersion", .text),
    ("uid", .text)]

end EventSubject

namespace EventSeries

/-- A series as an object. -/
def encode (series : EventSeries) : Json :=
  .obj [("count", .int series.count), ("lastObservedTime", .str series.lastObserved.microText)]

/-- The shape of a series. -/
def shape : Shape :=
  .object "EventSeries" [("count", .int32), ("lastObservedTime", .time)]

end EventSeries

namespace ClusterEvent

/-- The event seen once more. -/
def again (event : ClusterEvent) (now : Instant) : ClusterEvent :=
  { event with
    series := some ⟨(event.series.map (·.count + 1)).getD 2, now⟩ }

/-- An event as an object. -/
def encode (event : ClusterEvent) : Json :=
  .record [
    ("apiVersion", some (.str Kind.event.apiVersion)),
    ("kind", some (.str Kind.event.kind)),
    ("action", some (.str event.content.action)),
    ("eventTime", some (.str event.time.microText)),
    ("metadata", some (.record [
      ("name", some (.str event.name)),
      ("namespace", event.subject.namespace.map .str)])),
    ("note", some (.str event.content.note)),
    ("reason", some (.str event.content.reason)),
    ("regarding", some event.subject.encode),
    ("reportingController", some (.str event.controller)),
    ("reportingInstance", some (.str event.instance)),
    ("series", event.series.map EventSeries.encode),
    ("type", some (.str event.content.type.name))]

/-- The fields of an event but for what it calls itself. -/
def unkept : Shapes := [
  ("action", .text),
  ("deprecatedCount", .int32),
  ("deprecatedFirstTimestamp", .time),
  ("deprecatedLastTimestamp", .time),
  ("deprecatedSource", .object "EventSource" [("component", .text), ("host", .text)]),
  ("eventTime", .time),
  ("metadata", .of Metadata.decode),
  ("note", .text),
  ("reason", .text),
  ("regarding", EventSubject.shape),
  ("related", EventSubject.shape),
  ("reportingController", .text),
  ("reportingInstance", .text),
  ("series", EventSeries.shape),
  ("type", .text)]

/-- Checks an event. -/
def check : Decoder Unit := (Resource.typeFields .event).decodeBuiltIn "Event" unkept

end ClusterEvent

end PeerFirewall
