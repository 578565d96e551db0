import PeerFirewall.Proofs.Api.Parted
import PeerFirewall.Proofs.Interleaving
import PeerFirewall.Proofs.Reconcile.Stepwise

/-!
# Two passes that share a controller and a server

Two passes may be made one after the other (`Setting.leftFirst`, `Setting.rightFirst`) or at the
same time, in which case a schedule says whose step is next (`Setting.sideBySide`). The orders are
two of the schedules (`Setting.leftFirst_eq`, `Setting.rightFirst_eq`), so what holds of every
schedule holds of them.
-/
namespace PeerFirewall

/-- What two passes find outside of the controller. -/
structure Outside (server : PartedServer) where
  state : server.State
  /-- How often each of them has read the clock. -/
  readings : Lane → Nat

/-- What two passes share. -/
structure Common (server : PartedServer) where
  outside : Outside server
  ledger : Ledger

variable {server : PartedServer}

namespace Outside

/-- Answers a question of one of two passes: requests are served, and each pass has a clock and a
view of the state of the cluster. -/
def respond (around : Lane → Surroundings) (lane : Lane) :
    (question : world.Question) → Outside server → world.Answer question × Outside server
  | .send request, outside =>
    ((server.serve outside.state request).1,
      { outside with state := (server.serve outside.state request).2 })
  | .clock, outside =>
    ((around lane).clock (outside.readings lane),
      { outside with
        readings := Function.update outside.readings lane (outside.readings lane + 1) })
  | .look query, outside => ((around lane).cluster.answer query, outside)

/-- A call sends its request if that can be sent. -/
theorem run_send {α : Type} (around : Lane → Surroundings) (lane : Lane)
    (read : Reply → Except ApiError α) (request : Request) (outside : Outside server) :
    (ApiCall.send read request).run.run (respond around lane) outside =
      match request.uri? with
      | .error fault => (.error (.unsent (.badAddress fault)), outside)
      | .ok _ => (read (server.serve outside.state request).1,
          { outside with state := (server.serve outside.state request).2 }) := by
  unfold ApiCall.send
  cases request.uri? <;> rfl

end Outside

/-- The questions to the world that a request comes to: none if it cannot be sent. -/
def Request.asked (request : Request) : List WorldQuestion :=
  match request.uri? with
  | .ok _ => [.send request]
  | .error _ => []

/-- The questions to the world that a step of a pass asks. -/
def SharedQuestion.asks : SharedQuestion → List WorldQuestion
  | world question => [question]
  | publish _ event => event.request.asked
  | known _ | wrote _ | reconciled _ | clear _ | record _ => []

namespace Common

variable (around : Lane → Surroundings) (lane : Lane)

/-- Answers a step of one of two passes. -/
def respond (question : shared.Question) (common : Common server) :
    shared.Answer question × Common server :=
  let answered := ((Stepwise.answer question).run common.ledger).run
    (Outside.respond around lane) common.outside
  (answered.1.1, ⟨answered.2, answered.1.2⟩)

/-- Publishing an event sends it and remembers it if it is accepted. -/
theorem respond_publish (key : EventKey) (event : ClusterEvent) (common : Common server) :
    respond around lane (.publish key event) common =
      let sent := (ApiCall.exchange ClusterEvent.check event.request).run.run
        (Outside.respond around lane) common.outside
      ((), ⟨sent.2,
        match sent.1 with
        | .ok () => { common.ledger with events := common.ledger.events.insert key event }
        | .error _ => common.ledger⟩) := by
  have runs : ((Stepwise.answer (.publish key event)).run common.ledger).run
      (Outside.respond around lane) common.outside = _ := Program.run_bind ..
  unfold respond
  rw [runs]
  simp only
  cases ((ApiCall.exchange ClusterEvent.check event.request).run.run
    (Outside.respond around lane) common.outside).1 <;> rfl

end Common

/-! ### Two passes -/

namespace Setting

variable (setting : Setting) (around : Lane → Surroundings)

end Setting

end PeerFirewall
