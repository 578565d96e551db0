import PeerFirewall.Proofs.Readiness
import PeerFirewall.Proofs.Reconcile.Undisturbed

/-!
# A status is written once

What a pass writes on the status of a policy is a merge patch. Laid over the policy as it is stored,
it leaves there what the pass computed, whatever the status was before
(`PolicyStatus.decode_patch`). A pass that ends the same way then finds it said already and sends
nothing, however much later it is (`Policy.updateStatus_settles`).
-/
namespace PeerFirewall

open Time (Instant)

variable {members : List (String × Json)} {policy : Policy} {space : String} {outcome : Outcome}

namespace Policy

/-- The status that a pass writes on a policy if it ended so at that time. -/
def toldStatus (policy : Policy) (outcome : Outcome) (now : Instant) : PolicyStatus :=
  .afterPass policy.status policy.metadata.generation outcome now

/-- Whether the status of a stored policy is written as it is to be, and is not written again. -/
structure Settles (space : String) (members : List (String × Json)) (policy : Policy)
    (outcome : Outcome) (now : Instant) : Prop where
  /-- Unless the policy says already how the pass ended, a merge patch is sent that says so, if it
  makes an address, and nothing else is sent. -/
  writes : ∀ rest result,
    (policy.updateStatus space outcome).run.Goes (WorldStep.clock now :: rest) result →
    if policy.status = some (policy.toldStatus outcome now) then rest = []
    else (∃ reply, rest =
      [WorldStep.sent (policy.statusRequest space (policy.toldStatus outcome now)) reply]) ∨
        rest = [] ∧ ¬ policy.Addressable space
  /-- What is stored then is the policy with the status that was computed. -/
  stores : decode ((policy.toldStatus outcome now).patch.mergePatch (.obj members)) =
    .ok { policy with status := some (policy.toldStatus outcome now) }
  /-- Nothing is sent over what is stored then, whatever else the server keeps of the write, if a
  pass ends the same way at any time. -/
  quiet : ∀ (again : Policy), again.status = some (policy.toldStatus outcome now) →
    again.metadata.generation = policy.metadata.generation → ∀ later rest result,
    (again.updateStatus space outcome).run.Goes (WorldStep.clock later :: rest) result →
    rest = [] ∧ result = .ok ()

end Policy

end PeerFirewall
