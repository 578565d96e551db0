import PeerFirewall.Proofs.Reconcile.Footprint

/-!
# Ledgers that passes leave

What is kept from pass to pass begins with nothing and is changed by passes only
(`Ledger.Reachable`). Every pass leaves the events that are remembered under their own keys, so they
always are (`Ledger.Reachable.filed`).
-/
namespace PeerFirewall

/-- Whether passes may leave a ledger, whatever they are made with and over, and whatever they are
answered. -/
inductive Ledger.Reachable : Ledger → Prop where
  /-- No pass was made. -/
  | fresh : Reachable .fresh
  /-- One more pass was made. -/
  | turn {ledger after : Ledger} {setting : Setting} {queued : Policy} {t : Transcript world}
      {ended : Except NamelessObject Turn} (before : Reachable ledger)
      (goes : ((setting.turn queued).run ledger).Goes t (ended, after)) : Reachable after

namespace Setting

variable {setting : Setting} {queued : Policy} {ledger : Ledger}

/-- A pass leaves what is kept in its place: failures are counted when it has ended. -/
theorem pass_leavesInPlace :
    ((setting.pass queued).run ledger).Bounded (fun _ => True) fun ended =>
      ledger.LeavesInPlace ended.2 := by
  unfold pass
  rw [Program.run_stateT_lift_bind]
  refine (Program.asks_anything _).bindBounded fun now => ?_
  change Program.Bounded (I := world) _ _ (StateT.run (if _ then _ else _) _)
  split
  · cases queued.metadata.namespace with
    | none => exact .refl ledger
    | some space =>
      simp only
      rw [Program.run_stateT_lift_bind]
      refine (Program.asks_anything _).bindBounded fun found => ?_
      match found with
      | .error error => exact .refl ledger
      | .ok none => exact .refl ledger
      | .ok (some fetched) =>
        have looks (query : Query) : (setting.lookUp query).Asks fun _ => True :=
          Program.asks_anything _
        simp only
        rw [Program.run_stateT_bind]
        refine Program.Bounded.bind ?_ fun _ leaves => leaves
        exact (finalize_mayAsk looks).imp (fun _ _ => trivial) fun _ leaves => leaves
  · exact .refl ledger

/-- A pass that is counted leaves the events that are remembered in their places. -/
theorem reconcile_staysFiled :
    ((setting.reconcile queued).run ledger).Bounded (fun _ => True)
      (StaysFiled ledger.events) := by
  unfold reconcile
  rw [Program.run_stateT_bind]
  refine pass_leavesInPlace.bind fun ended leaves => ?_
  obtain ⟨_ | action, after⟩ := ended
  · exact leaves.filed
  · simp only
    cases queued.metadata.objectName <;> exact leaves.filed

/-- A pass after which it is settled when the next one is made leaves the events that are remembered
in their places. -/
theorem turn_staysFiled :
    ((setting.turn queued).run ledger).Bounded (fun _ => True) (StaysFiled ledger.events) := by
  unfold turn
  rw [Program.run_stateT_bind]
  refine reconcile_staysFiled.bind fun ended stays => ?_
  match ended with
  | (.error complaint, after) => exact stays
  | (.ok (.ok action), after) => exact stays
  | (.ok (.error error), after) =>
    simp only [Ledger.retry]
    cases queued.metadata.objectName <;> exact stays

end Setting

/-- Whatever passes were made, every event is remembered under its own key. -/
theorem Ledger.Reachable.filed {ledger : Ledger} (reachable : ledger.Reachable) :
    ledger.events.Filed := by
  induction reachable with
  | fresh => exact EventCache.filed_empty
  | turn before goes filed => exact Setting.turn_staysFiled.of_goes goes filed

end PeerFirewall
