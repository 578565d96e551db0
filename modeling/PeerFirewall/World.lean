import PeerFirewall.Api.Reply
import PeerFirewall.Compile.Query
import PeerFirewall.Program

/-!
# What the controller asks of the world

Everything that the controller does to the world or learns from it is one of three questions: a
request to the API server, a look at the clock, and a query about the state of the cluster where
that state is not read through the API server.
-/
namespace PeerFirewall

/-- A question to the world. -/
inductive WorldQuestion where
  | send (request : Request)
  | clock
  | look (query : Query)

/-- The answer of the world to a question. -/
abbrev WorldQuestion.Answer : WorldQuestion → Type
  | send _ => Reply
  | clock => Time.Instant
  | look query => query.Answer

/-- The questions to the world as an interface. -/
def world : Interface := ⟨WorldQuestion, WorldQuestion.Answer⟩

/-- The time now. -/
def readClock : Program world Time.Instant := .ask WorldQuestion.clock .done

/-- The answer to a query about the cluster that the world itself gives. -/
def lookUp (query : Query) : Program world query.Answer := .ask (WorldQuestion.look query) .done

end PeerFirewall
