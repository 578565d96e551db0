import PeerFirewall.Controller.Queue
import PeerFirewall.Reconcile.Pass
import PeerFirewall.Watch.Topic

/-!
# The controller

The controller keeps the policies it knows, a queue of those to look at, and what passes leave
behind. A change puts the policies that it affects into the queue; a policy that is due gets a
pass, after which it is put back for the time that the pass asks for. A policy that is no longer
known is dropped.
-/
namespace PeerFirewall

/-- The state of a controller. -/
structure Controller where
  policies : KnownPolicies
  queue : Queue
  ledger : Ledger
  /-- Milliseconds since the start. -/
  now : Nat

namespace Controller

/-- A controller that knows nothing yet. -/
def fresh : Controller := ⟨.none, .empty, .fresh, 0⟩

/-- Puts policies into the queue, due now. -/
def scheduleNow (controller : Controller) (objects : List ObjectName) : Controller :=
  { controller with queue := controller.queue.scheduleAll objects controller.now }

/-- Takes note of a change. -/
def notice (info : ClusterInfo) (controller : Controller) :
    Change → Except NamelessObject Controller
  | .policy .deleted policy => do
    let policies ← controller.policies.step (.deleted policy)
    return { controller with policies }
  | .policy _ policy => do
    let policies ← controller.policies.step (.applied policy)
    let object ← policy.metadata.objectName
    return { controller with policies }.scheduleNow [object]
  | .firewall firewall => .ok (controller.scheduleNow firewall.owningPolicies)
  | .pod pod => .ok (controller.scheduleNow (controller.policies.known.affectedByPod info pod))
  | .network network =>
    .ok (controller.scheduleNow (controller.policies.known.affectedByNetwork info network))
  | .namespaceOffloading offloading =>
    .ok (controller.scheduleNow (controller.policies.known.affectedByOffloading offloading))

/-- Takes note of changes, one after the other. -/
def noticeAll (info : ClusterInfo) (controller : Controller) :
    List Change → Except NamelessObject Controller
  | [] => .ok controller
  | change :: rest => do (← controller.notice info change).noticeAll info rest

/-- Begins to watch: what is there counts as added. -/
def watch (info : ClusterInfo) (controller : Controller) :
    List Topic → Program world (Except NamelessObject Controller)
  | [] => return .ok controller
  | topic :: rest => do
    match ← topic.list with
    | none => controller.watch info rest
    | some changes =>
      let _ : Reply ← .ask (WorldQuestion.send topic.watchRequest) .done
      match controller.noticeAll info changes with
      | .error complaint => return .error complaint
      | .ok controller => controller.watch info rest

/-- After how many milliseconds an action is due; no action is due at once. -/
def delay (seconds : Nat) : Nat := max 1 (1000 * seconds)

/-- Puts a policy back into the queue as a pass asks for. -/
def follow (controller : Controller) (object : ObjectName) : Action → Controller
  | .awaitChange => controller
  | .requeue seconds =>
    { controller with
      queue := controller.queue.schedule object (controller.now + delay seconds) }

/-- Makes the passes that are due before a time, that many at most. -/
def passesWithin (setting : Setting) (deadline : Nat) :
    Nat → Controller → Program world (Except NamelessObject Controller)
  | 0, controller => return .ok controller
  | passes + 1, controller =>
    match controller.queue.next? deadline with
    | none => return .ok { controller with now := deadline }
    | some (object, due) =>
      let controller :=
        { controller with queue := controller.queue.erase object, now := max controller.now due }
      match controller.policies.known.find? object with
      | none => controller.passesWithin setting deadline passes
      | some policy => do
        match ← (setting.turn policy).run controller.ledger with
        | (.error complaint, _) => return .error complaint
        | (.ok turn, ledger) =>
          ({ controller with ledger }.follow object turn.next).passesWithin setting deadline passes

/-- Lets time pass. A policy gets one pass a millisecond at most, which bounds their number. -/
def elapse (setting : Setting) (milliseconds : Nat) (controller : Controller) :
    Program world (Except NamelessObject Controller) :=
  let deadline := controller.now + milliseconds
  controller.passesWithin setting deadline
    (controller.queue.length * (milliseconds + 1) + 1)

end Controller

end PeerFirewall
