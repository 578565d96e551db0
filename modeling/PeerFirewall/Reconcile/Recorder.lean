import PeerFirewall.Api.Client
import PeerFirewall.Keyed
import PeerFirewall.Resource.Event

/-!
# Publishing events

What is said about an object for the first time is a new event. Said again with the same type,
action and reason, it continues the event of before as a series, whose note stays that of the first
one. An event that could not be published leaves no trace.
-/
namespace PeerFirewall

open Time (Instant)

/-- What makes two events about an object the same. -/
structure EventKey where
  type : EventType
  action : String
  reason : String
  subject : EventSubject
deriving DecidableEq, Repr

/-- The events that were published, the last of each key. -/
abbrev EventCache := Keyed EventKey ClusterEvent

namespace ClusterEvent

/-- The name of a new event: the name of its subject and the nanoseconds of the time. -/
def newName (subject : EventSubject) (now : Instant) : String :=
  subject.name.getD controllerName ++ "." ++
    String.ofList (Nat.toDigits 16 now.totalNanoseconds.toNat)

/-- A new event that this instance of the controller reports. -/
def first («instance» : String) (subject : EventSubject) (content : EventNote) (now : Instant) :
    ClusterEvent where
  name := newName subject now
  time := now
  content := content
  subject := subject
  controller := controllerName
  «instance» := «instance»
  series := none

/-- The events of the namespace of the subject. -/
def collection (event : ClusterEvent) : Collection :=
  ⟨.event, some (event.subject.namespace.getD "default")⟩

/-- The request that publishes an event: a patch, if it continues a series. -/
def request (event : ClusterEvent) : Request :=
  match event.series with
  | none => ⟨.post, .collection event.collection, [], some event.encode⟩
  | some _ => ⟨.patch .merge, .object event.collection event.name, [], some event.encode⟩

end ClusterEvent

namespace EventCache

/-- Publishes what is to be said about an object, as an instance of the controller. -/
def publish («instance» : String) (subject : EventSubject) (content : EventNote) :
    StateT EventCache (Program world) Unit := fun cache => do
  let now ← readClock
  let key : EventKey := ⟨content.type, content.action, content.reason, subject⟩
  let event :=
    match cache.find? key with
    | some earlier => earlier.again now
    | none => .first «instance» subject content now
  match ← (ApiCall.exchange ClusterEvent.check event.request).run with
  | .ok () => return ((), cache.insert key event)
  | .error _ => return ((), cache)

end EventCache

end PeerFirewall
