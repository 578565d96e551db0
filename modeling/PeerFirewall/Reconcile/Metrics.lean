import PeerFirewall.Reconcile.Upsert

/-!
# Counters

The controller counts its passes by how they ended and its writes by what they did. A counter that
was never touched is not shown; the number of timed passes always is.
-/
namespace PeerFirewall

/-- What the controller counts. -/
structure Metrics where
  passesOk : Nat
  passesFailed : Nat
  created : Nat
  updated : Nat
  unchanged : Nat
deriving DecidableEq, Repr

namespace Metrics

/-- Nothing counted yet. -/
def zero : Metrics := ⟨0, 0, 0, 0, 0⟩

/-- Counts a pass. -/
def reconciled (ok : Bool) (metrics : Metrics) : Metrics :=
  if ok then { metrics with passesOk := metrics.passesOk + 1 }
  else { metrics with passesFailed := metrics.passesFailed + 1 }

/-- Counts what became of the stored configuration. -/
def wrote (operation : WriteOperation) (metrics : Metrics) : Metrics :=
  match operation with
  | .created => { metrics with created := metrics.created + 1 }
  | .updated => { metrics with updated := metrics.updated + 1 }
  | .unchanged => { metrics with unchanged := metrics.unchanged + 1 }

/-- The line of a counter that has one label. -/
def counterLine (counter label value : String) (count : Nat) : Option String :=
  if count = 0 then none
  else some (counter ++ "\x7b" ++ label ++ "=\"" ++ value ++ "\"\x7d " ++ toString count)

/-- The lines that show the counters, in ascending order. -/
def lines (metrics : Metrics) : List String :=
  let writes := counterLine "connectivity_firewall_write_total" "operation"
  let passes := counterLine "connectivity_reconcile_total" "result"
  [ writes "created" metrics.created,
    writes "unchanged" metrics.unchanged,
    writes "updated" metrics.updated,
    some ("connectivity_reconcile_duration_seconds_count " ++
      toString (metrics.passesOk + metrics.passesFailed)),
    passes "error" metrics.passesFailed,
    passes "ok" metrics.passesOk ].filterMap id

end Metrics

end PeerFirewall
