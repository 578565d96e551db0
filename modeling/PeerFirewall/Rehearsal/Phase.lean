import PeerFirewall.Controller.Loop
import PeerFirewall.Rehearsal.Fixture

/-!
# The phases of a rehearsal

In each phase of a rehearsal some objects of the stand-in are changed, changes are told to the
watches, and then time passes. What a phase shows is which requests are sent in it.
-/
namespace PeerFirewall

namespace Decoder

/-- Any value, as it is. -/
def json : Decoder Json := fun value => .ok value

/-- The members of an object. -/
def members : Decoder (List (String × Json))
  | .obj members => .ok members
  | value => mismatch value "a map"

end Decoder

/-- A change as a watch tells it. -/
structure Emission where
  /-- The name of the collection that is watched. -/
  collection : String
  type : String
  object : Json

/-- A phase of a rehearsal. -/
structure Phase where
  put : List (String × Json)
  emit : List Emission
  seconds : Nat

namespace Emission

/-- Reads what happened, and to which object. -/
def decodeEvent : Decoder (String × Json) :=
  (Prod.mk
  <$> Record.field "type" Decoder.string
  <*> Record.field "object" Decoder.json).decode "Event"

/-- The fields of an emission. -/
def fields : Record Emission :=
  (fun collection event => ⟨collection, event.1, event.2⟩)
  <$> Record.field "on" Decoder.string
  <*> Record.field "event" decodeEvent

/-- Reads an emission. -/
def decode : Decoder Emission := fields.decode "Emission"

/-- The change that an emission tells, if its collection is watched and its object can be read. -/
def change? (emission : Emission) (topics : List Topic) : Option Change := do
  let topic ← topics.find? (·.name = emission.collection)
  let type ← ChangeType.ofName? emission.type
  (topic.decodeChange type emission.object).toOption

end Emission

namespace Phase

/-- The fields of a phase. -/
def fields : Record Phase :=
  (fun put emit seconds => ⟨put, emit, seconds.toNat⟩)
  <$> Record.lenientField "put" Decoder.members []
  <*> Record.lenientField "emit" (Decoder.list Emission.decode) []
  <*> Record.lenientField "secs" Decoder.uint32 2

/-- Reads a phase. -/
def decode : Decoder Phase := fields.decode "Phase"

/-- How much time passes, in milliseconds: half a second more than is asked for, so that nothing is
due just at the end. -/
def duration (phase : Phase) : Nat := 1000 * phase.seconds + 500

/-- The changes that the watches tell. -/
def changes (phase : Phase) (topics : List Topic) : List Change :=
  phase.emit.filterMap (·.change? topics)

end Phase

namespace Controller

/-- Goes through a phase. -/
def goThrough (setting : Setting) (topics : List Topic) (phase : Phase)
    (controller : Controller) : Program world (Except NamelessObject Controller) :=
  match controller.noticeAll setting.info (phase.changes topics) with
  | .error complaint => return .error complaint
  | .ok controller => controller.elapse setting phase.duration

/-- Goes through the first phase: the watches begin before anything else. -/
def begin (setting : Setting) (topics : List Topic) (phase : Phase) :
    Program world (Except NamelessObject Controller) := do
  match ← fresh.watch setting.info topics with
  | .error complaint => return .error complaint
  | .ok controller => controller.goThrough setting topics phase

end Controller

namespace Stage

/-- The stage with some objects changed. -/
def put (stage : Stage) (objects : List (String × Json)) : Stage :=
  { stage with fixture := stage.fixture.put objects }

/-- The requests of each phase of a controller that is running. One that has met an object without
a name has come to a halt. -/
def goOn (stage : Stage) (setting : Setting) (topics : List Topic) :
    Except NamelessObject Controller → List Phase → List (List Request)
  | _, [] => []
  | .error complaint, _ :: rest => [] :: stage.goOn setting topics (.error complaint) rest
  | .ok controller, phase :: rest =>
    let stage := stage.put phase.put
    let (controller, sent) := stage.perform (controller.goThrough setting topics phase)
    sent :: stage.goOn setting topics controller rest

/-- The requests of each phase of a controller that begins with the first one. -/
def rehearse (stage : Stage) (setting : Setting) (topics : List Topic) :
    List Phase → List (List Request)
  | [] => []
  | phase :: rest =>
    let stage := stage.put phase.put
    let (controller, sent) := stage.perform (Controller.begin setting topics phase)
    sent :: stage.goOn setting topics controller rest

end Stage

end PeerFirewall
