import PeerFirewall.Reconcile.Pass

/-!
# How a fetched policy stands

What a pass makes of a policy that it has fetched depends on whether the policy carries the mark,
whether it is being deleted, and whether it has a name. A policy is in one of five stages
(`Policy.stage`), and for each of them there is one equation for `Setting.finalize`.
-/
namespace PeerFirewall

/-- The stages in which a policy can be when it is fetched. -/
inductive Policy.Stage (policy : Policy) : Prop where
  /-- It is not being deleted, and not marked yet. -/
  | arriving {name : String} (unmarked : Finalizer.place? policy.metadata = none)
      (kept : policy.metadata.deletionTimestamp = none)
      (named : policy.metadata.name = some name)
  /-- It is not being deleted, and marked. -/
  | staying {place : Nat} (marked : Finalizer.place? policy.metadata = some place)
      (kept : policy.metadata.deletionTimestamp = none)
  /-- It is being deleted, and still marked. -/
  | leaving {place : Nat} {name : String}
      (marked : Finalizer.place? policy.metadata = some place)
      (deleted : policy.metadata.deletionTimestamp ≠ none)
      (named : policy.metadata.name = some name)
  /-- It is being deleted, and the mark is off. -/
  | released (unmarked : Finalizer.place? policy.metadata = none)
      (deleted : policy.metadata.deletionTimestamp ≠ none)
  /-- The mark would have to be put on or taken off, but there is no name to patch it by. -/
  | unnamed (unnamed : policy.metadata.name = none)
      (unsettled : Finalizer.place? policy.metadata = none ↔
        policy.metadata.deletionTimestamp = none)

/-- Every policy is in one of the stages. -/
theorem Policy.stage (policy : Policy) : policy.Stage := by
  cases mark : Finalizer.place? policy.metadata with
  | none =>
    cases deletion : policy.metadata.deletionTimestamp with
    | some time => exact .released mark (by simp [deletion])
    | none =>
      cases named : policy.metadata.name with
      | none => exact .unnamed named (by simp [mark, deletion])
      | some name => exact .arriving mark deletion named
  | some place =>
    cases deletion : policy.metadata.deletionTimestamp with
    | none => exact .staying mark deletion
    | some time =>
      cases named : policy.metadata.name with
      | none => exact .unnamed named (by simp [mark, deletion])
      | some name => exact .leaving mark (by simp [deletion]) named

namespace Setting

variable {setting : Setting} {space name : String} {policy : Policy} {place : Nat}

/-- A policy that is not marked yet is marked, and nothing else is done. -/
theorem finalize_arriving (unmarked : Finalizer.place? policy.metadata = none)
    (kept : policy.metadata.deletionTimestamp = none)
    (named : policy.metadata.name = some name) :
    setting.finalize space policy = (do
      match ← patchFinalizers space name (Finalizer.added policy.metadata.finalizerList) with
      | .error error => return .error (.addFailed error)
      | .ok _ => return .ok .awaitChange) := by
  rewrite [finalize, unmarked, kept, named]
  rfl

/-- A policy that is marked is applied. -/
theorem finalize_staying (marked : Finalizer.place? policy.metadata = some place)
    (kept : policy.metadata.deletionTimestamp = none) :
    setting.finalize space policy =
      (do return (← setting.apply space policy).mapError .applyFailed) := by
  simp only [finalize, marked, kept]

/-- A marked policy that is being deleted is cleaned up after, and then the mark is taken off. -/
theorem finalize_leaving (marked : Finalizer.place? policy.metadata = some place)
    (deleted : policy.metadata.deletionTimestamp ≠ none)
    (named : policy.metadata.name = some name) :
    setting.finalize space policy = (do
      match ← setting.cleanup space with
      | .error error => return .error (.cleanupFailed error)
      | .ok action =>
        match ← patchFinalizers space name (Finalizer.removed place) with
        | .error error => return .error (.removeFailed error)
        | .ok _ => return .ok action) := by
  obtain ⟨time, deletion⟩ := Option.ne_none_iff_exists'.1 deleted
  rewrite [finalize, marked, deletion, named]
  rfl

/-- Nothing is done about a policy whose mark is off and that is being deleted. -/
theorem finalize_released (unmarked : Finalizer.place? policy.metadata = none)
    (deleted : policy.metadata.deletionTimestamp ≠ none) :
    setting.finalize space policy = pure (.ok .awaitChange) := by
  obtain ⟨time, deletion⟩ := Option.ne_none_iff_exists'.1 deleted
  simp only [finalize, unmarked, deletion]

/-- Nothing can be done about the mark of a policy without a name. -/
theorem finalize_unnamed (unnamed : policy.metadata.name = none)
    (unsettled : Finalizer.place? policy.metadata = none ↔
      policy.metadata.deletionTimestamp = none) :
    setting.finalize space policy = pure (.error .unnamedObject) := by
  cases mark : Finalizer.place? policy.metadata with
  | none => simp only [finalize, mark, unsettled.1 mark, unnamed]
  | some place =>
    have deleted : policy.metadata.deletionTimestamp ≠ none := fun kept =>
      nomatch mark.symm.trans (unsettled.2 kept)
    obtain ⟨time, deletion⟩ := Option.ne_none_iff_exists'.1 deleted
    simp only [finalize, mark, deletion, unnamed]

end Setting

end PeerFirewall
