import PeerFirewall.Proofs.Reconcile.Honesty

/-!
# Passes are level-triggered

A policy that is queued says only which object is to be looked at. Two policies that name the same
object, whatever else they say, bring about the same pass and, should it fail, the same delay
(`Setting.turn_levelTriggered`). What is done about the object is settled by the policy as the pass
itself fetches it (`Setting.pass_settledByFetched`).
-/
namespace PeerFirewall

/-- Whether two policies stand for one object: they have the same name in the same namespace. -/
structure Policy.SameObject (queued other : Policy) : Prop where
  named : ∃ name, queued.metadata.name = some name ∧ other.metadata.name = some name
  home : queued.metadata.namespace = other.metadata.namespace

namespace Policy.SameObject

variable {queued other : Policy}

/-- Policies that stand for one object are shown by the same name. -/
theorem displayName_eq (same : queued.SameObject other) :
    queued.metadata.displayName = other.metadata.displayName := by
  obtain ⟨name, named, namedToo⟩ := same.named
  simp only [Metadata.displayName, named, namedToo, Option.getD_some]

/-- Policies that stand for one object have the same identity. -/
theorem objectName_eq (same : queued.SameObject other) :
    queued.metadata.objectName = other.metadata.objectName := by
  obtain ⟨name, named, namedToo⟩ := same.named
  simp only [Metadata.objectName, named, namedToo, same.home]

end Policy.SameObject

/-- A failed pass is counted against the object that the policy stands for. -/
theorem Ledger.retry_eq {queued other : Policy} (same : queued.SameObject other)
    (ledger : Ledger) : ledger.retry queued = ledger.retry other := by
  simp only [retry, same.objectName_eq]

namespace Setting

variable {setting : Setting} {queued other : Policy}

/-- A pass asks for the object that the policy stands for, and the policy is not used again. -/
theorem pass_eq (same : queued.SameObject other) : setting.pass queued = setting.pass other := by
  simp only [pass, same.displayName_eq, same.home]

/-- A pass is counted for the object that the policy stands for. -/
theorem reconcile_eq (same : queued.SameObject other) :
    setting.reconcile queued = setting.reconcile other := by
  simp only [reconcile, pass_eq same, same.objectName_eq]

/-- When the object is looked at again does not depend on the policy that stands for it. -/
theorem turn_eq (same : queued.SameObject other) : setting.turn queued = setting.turn other := by
  simp only [turn, reconcile_eq same, Ledger.retry_eq same]

/-- Once a pass has fetched a policy, what it does and how it ends is what dealing with the fetched
policy does and how that ends. -/
theorem pass_settledByFetched {ledger after : Ledger} {t rest : Transcript world}
    {result : Except PassError Action} {space : String} {fetched : Policy}
    (goes : ((setting.pass queued).run ledger).Goes t (result, after))
    (isFetched : queued.Fetched space fetched t rest) :
    ∃ finalized, ((setting.finalize space fetched).run ledger).Goes rest (finalized, after) ∧
      result = finalized.mapError .finalizer := by
  rcases pass_goes goes with unfetched | ⟨_, _, _, finalized, isFetchedToo, finalizes, ends⟩
  · exact absurd isFetched (unfetched.unfetched space fetched rest)
  · obtain ⟨rfl, rfl, rfl⟩ := isFetched.unique isFetchedToo
    exact ⟨finalized, finalizes, ends⟩

/-- Whether nothing tells apart what two policies bring about when they are queued. -/
structure Indistinct (setting : Setting) (queued other : Policy) : Prop where
  /-- The same is asked, in the same order. -/
  asks : ∀ {σ : Type} (respond : (question : world.Question) → σ → world.Answer question × σ)
    (s : σ) (ledger : Ledger),
    ((setting.turn queued).run ledger).transcript respond s =
      ((setting.turn other).run ledger).transcript respond s
  /-- The pass ends alike, is made again at the same time, and leaves the same failures, the same
  counters, the same events and the same world. -/
  ends : ∀ {σ : Type} (respond : (question : world.Question) → σ → world.Answer question × σ)
    (s : σ) (ledger : Ledger),
    ((setting.turn queued).run ledger).run respond s =
      ((setting.turn other).run ledger).run respond s
  /-- A failure delays the next pass as much. -/
  retries : ∀ ledger : Ledger, ledger.retry queued = ledger.retry other
  /-- The pass goes on with the policy that it has fetched, and with nothing else. -/
  settled : ∀ (ledger after : Ledger) (t rest : Transcript world)
    (result : Except PassError Action) (space : String) (fetched : Policy),
    ((setting.pass queued).run ledger).Goes t (result, after) →
    queued.Fetched space fetched t rest ∨ other.Fetched space fetched t rest →
    ∃ finalized, ((setting.finalize space fetched).run ledger).Goes rest (finalized, after) ∧
      result = finalized.mapError .finalizer

/-- What a queued policy brings about depends only on which object it stands for. -/
theorem turn_levelTriggered (setting : Setting) (queued other : Policy)
    (same : queued.SameObject other) : setting.Indistinct queued other where
  asks respond s ledger := by rw [turn_eq same]
  ends respond s ledger := by rw [turn_eq same]
  retries := Ledger.retry_eq same
  settled ledger after t rest result space fetched goes isFetched := by
    rcases isFetched with isFetched | isFetched
    · exact pass_settledByFetched goes isFetched
    · rw [pass_eq same] at goes
      exact pass_settledByFetched goes isFetched

/-- A queued policy of which little more than the name is up to date brings about what the policy as
it is brings about, and the pass goes on with the latter. -/
theorem turn_levelTriggered_stale :
    let current := marked "rules" "liqo-tenant-c"
    let stale : Policy :=
      { current with
        metadata := { Metadata.empty with
          name := some "rules"
          «namespace» := some "liqo-tenant-c"
          uid := some "u0"
          deletionTimestamp := some ⟨7, 0⟩ }
        status := some ⟨some 4, []⟩ }
    stale ≠ current ∧ served.Indistinct stale current ∧
      ∃ t rest result after, ((served.pass stale).run .fresh).Goes t (result, after) ∧
        stale.Fetched "liqo-tenant-c" current t rest := by
  intro current stale
  have same : stale.SameObject current := ⟨⟨"rules", rfl, rfl⟩, rfl⟩
  have reads : (Store.reply current.encode).read Policy.decode = .ok current := by decide +kernel
  have isCurrent : served.leadership.isCurrent ⟨0, 0⟩ := by decide
  have goes : ∃ t result after, ((served.pass stale).run .fresh).Goes t (result, after) ∧
      stale.Fetched "liqo-tenant-c" current t
        (((served.finalize "liqo-tenant-c" current).run .fresh).transcript (answers current) ()) :=
    pass_goes_answered (answers current) () isCurrent rfl (by decide) uri?_readRules_tenant reads
  obtain ⟨t, result, after, goes, isFetched⟩ := goes
  exact ⟨by decide, turn_levelTriggered served stale current same,
    t, _, result, after, goes, isFetched⟩

end Setting

end PeerFirewall
