import PeerFirewall.Admission.Service
import PeerFirewall.Rehearsal.Phase
import PeerFirewall.Service.Start

/-!
# Rehearsing the whole program

A scenario says which objects there are, what happens in which phase, what the admission service is
asked, and how the program is stopped at the end. Stopping makes phases of its own: after a signal
the lease is given back; something that does not end on the first signal is ended by a second one.
-/
namespace PeerFirewall

open Time (Instant)

/-- How the program is stopped. -/
inductive Stop where
  /-- By a signal, after which it ends when everything is done. -/
  | signal
  /-- By a second signal, because something would not end on the first. -/
  | abort
deriving DecidableEq, Repr

/-- What happens in a rehearsal of the whole program. -/
structure Scenario where
  objects : List (String × Json)
  phases : List Phase
  /-- What the admission service is asked after the phases. -/
  reviews : List HttpRequest
  stop : Stop

/-- What a rehearsal of the whole program shows. -/
structure Report where
  /-- The requests of each phase. -/
  phases : List (List Request)
  /-- The answers of the admission service, if it runs. -/
  admission : Option (List HttpResponse)
  result : Except ServiceError Unit

namespace HttpRequest

/-- Reads a body: a text as it is, any other value as JSON text. -/
def decodeBody : Decoder String
  | .str raw => .ok raw
  | value => .ok value.write

/-- The fields of a request to the admission service. -/
def fields : Record HttpRequest :=
  HttpRequest.mk
  <$> Record.lenientField "method" Decoder.string "POST"
  <*> Record.lenientField "path" Decoder.string "/"
  <*> Record.fieldWithDefault "body" decodeBody Json.null.write

/-- Reads a request to the admission service. -/
def decode : Decoder HttpRequest := fields.decode "Request"

end HttpRequest

namespace Stop

/-- Reads how the program is stopped. -/
def decode : Decoder Stop := Decoder.choice [("TERM", signal), ("INT", signal), ("abort", abort)]

end Stop

namespace Scenario

/-- The fields of a scenario. -/
def fields : Record Scenario :=
  Scenario.mk
  <$> Record.lenientField "objects" Decoder.members []
  <*> Record.lenientField "phases" (Decoder.list Phase.decode) []
  <*> Record.lenientField "admit" (Decoder.list HttpRequest.decode) []
  <*> Record.lenientField "stop" Stop.decode .signal

/-- Reads a scenario. -/
def decode : Decoder Scenario := fields.decode "Scenario"

/-- The stand-in as it is when the program starts. -/
def fixture (scenario : Scenario) : Fixture :=
  Fixture.put ⟨scenario.objects⟩ ((scenario.phases.head?.map (·.put)).getD [])

end Scenario

namespace Report

/-- All requests, in order. -/
def requests (report : Report) : List Request := report.phases.flatten

/-- Puts requests in front of those of the first phase. -/
def prepend (sent : List Request) : List (List Request) → List (List Request)
  | [] => []
  | first :: rest => (sent ++ first) :: rest

end Report

namespace Stage

/-- The phases that stopping makes. -/
def stopping (stage : Stage) (service : Service) (arguments : Arguments) :
    Stop → List (List Request)
  | .signal => [(stage.perform (service.stop arguments)).2]
  | .abort => [(stage.perform (service.stop arguments)).2, []]

/-- How the program ends when it is stopped. -/
def stopResult : Stop → Except ServiceError Unit
  | .signal => .ok ()
  | .abort => .error .aborted

end Stage

namespace Scenario

/-- Rehearses the whole program; every look at the clock shows the same time. A program that does
not start is not stopped either. -/
def rehearse (scenario : Scenario) (arguments : Arguments) (hostname : Option String)
    (time : Instant) : Report :=
  let unread : (query : Query) → query.Answer
    | .cidr _ => .error ⟨"not read here", []⟩
    | .pods _ => .error ⟨"not read here", []⟩
  let stage : Stage := ⟨scenario.fixture, unread, time⟩
  let (started, sent) := stage.perform (Service.start arguments hostname)
  match started with
  | .error error =>
    ⟨Report.prepend sent (scenario.phases.map fun _ => []), none, .error error⟩
  | .ok service =>
    { phases := Report.prepend sent
        (stage.rehearse service.setting service.topics scenario.phases ++
          stage.stopping service arguments scenario.stop)
      admission := service.admission.map fun resolvers =>
        scenario.reviews.map (Admission.serve resolvers)
      result := Stage.stopResult scenario.stop }

end Scenario

end PeerFirewall
