import PeerFirewall.Proofs.Reconcile.Accounts
import PeerFirewall.Proofs.Reconcile.Retries

/-!
# What the counters say

Whatever passes are made one after the other, each counter is the number of what it is to count
(`Metrics.Tally`): of passes, of those that failed, of writes by what they did, and of passes that
found nothing to do. Each write is told of by one event, unless that event makes no address. One
more pass keeps that so (`Metrics.Tally.step`), as what it counts accounts for what it has sent, and
therefore any passes do (`Setting.turns_account`).
-/
namespace PeerFirewall

/-! ### Counters -/

namespace Metrics

/-- How often an operation was counted. -/
def writes (operation : WriteOperation) (metrics : Metrics) : Nat :=
  match operation with
  | .created => metrics.created
  | .updated => metrics.updated
  | .unchanged => metrics.unchanged

variable (done : Option WriteOperation) (operation : WriteOperation) (metrics : Metrics) (ok : Bool)

/-- What became of the stored configuration is counted once. -/
theorem writes_counting : (metrics.counting done).writes operation =
    metrics.writes operation + if done = some operation then 1 else 0 := by
  cases done with
  | none => rfl
  | some other => cases other <;> cases operation <;> rfl

/-- Counting a pass counts no write. -/
theorem writes_reconciled : (metrics.reconciled ok).writes operation =
    metrics.writes operation := by
  cases ok <;> cases operation <;> rfl

/-- A pass is counted once, and among those that failed if it did. -/
theorem passes_reconciled :
    (metrics.reconciled ok).passesOk + (metrics.reconciled ok).passesFailed =
        metrics.passesOk + metrics.passesFailed + 1 ∧
      (metrics.reconciled ok).passesFailed = metrics.passesFailed + if ok then 0 else 1 := by
  cases ok with
  | true => exact ⟨Nat.add_right_comm .., rfl⟩
  | false => exact ⟨rfl, rfl⟩

/-- Counting what became of the stored configuration counts no pass. -/
theorem passes_counting : (metrics.counting done).passesOk = metrics.passesOk ∧
    (metrics.counting done).passesFailed = metrics.passesFailed := by
  cases done with
  | none => exact ⟨rfl, rfl⟩
  | some operation => cases operation <;> exact ⟨rfl, rfl⟩

end Metrics

/-! ### Many passes -/

/-- A pass that was made: what it was answered, how it ended, and what became of the stored
configuration. -/
structure PassEntry where
  steps : Transcript world
  turn : Turn
  done : Option WriteOperation

namespace PassEntry

/-- Whether a pass changed the stored configuration. -/
def isChange (entry : PassEntry) : Bool := entry.done.any (·.isChange)

/-- Whether a pass changed the stored configuration and did not tell of it. -/
def isUntold (entry : PassEntry) : Bool :=
  entry.isChange && tellings (Transcript.sent entry.steps) = 0

/-- A change is told of or not, and what is no change is not. -/
theorem tellings_add_isUntold {setting : Setting} {cache : EventCache} {queued : Policy}
    {entry : PassEntry} (accounted : setting.Accounted cache queued entry.steps entry.done) :
    tellings (Transcript.sent entry.steps) + entry.isUntold.toNat = entry.isChange.toNat := by
  obtain ⟨steps, turn, done⟩ := entry
  have quiet := accounted.quiet
  rcases done with _ | operation
  · exact quiet nofun
  · cases change : operation.isChange with
    | false =>
      have untold := quiet fun other same => Option.some.inj same ▸ change
      simpa [isUntold, isChange, change] using untold
    | true =>
      rcases accounted.tells operation rfl change with told | ⟨untold, _⟩
      · simp [isUntold, isChange, change, told]
      · simp [isUntold, isChange, change, untold]

end PassEntry

/-- Passes that were made, one after the other. -/
abbrev Journal := List PassEntry

/-- All that was asked in passes. -/
def Journal.steps (journal : Journal) : Transcript world := journal.flatMap (·.steps)

/-- Whether passes were made on occasions, the first one with what was kept before, each of them
accounted for. -/
inductive Setting.Makes (setting : Setting) :
    Ledger → List Occasion → Journal → Ledger → Prop where
  | nil (ledger : Ledger) : Makes setting ledger [] [] ledger
  | cons {occasion : Occasion} {rest : List Occasion} {entry : PassEntry} {journal : Journal}
      {before between after : Ledger}
      (goes : (({ setting with leadership := occasion.leadership }.turn occasion.policy).run
        before).Goes entry.steps (.ok entry.turn, between))
      (accounted : { setting with leadership := occasion.leadership }.Accounted before.events
        occasion.policy entry.steps entry.done)
      (metrics : between.metrics =
        (before.metrics.counting entry.done).reconciled (Setting.succeeded entry.turn.result))
      (later : Makes setting between rest journal after) :
      Makes setting before (occasion :: rest) (entry :: journal) after

/-- Whether what is counted is what was done in passes. -/
structure Metrics.Tally (metrics : Metrics) (journal : Journal) : Prop where
  /-- Every pass is counted. -/
  passes : metrics.passesOk + metrics.passesFailed = journal.length
  /-- Those that failed are counted as such. -/
  failed : metrics.passesFailed = journal.countP (·.turn.failed)
  /-- Every creation that succeeded is counted. -/
  created : metrics.created = (Transcript.sent journal.steps).countP (·.wrote .created)
  /-- Every replacement that succeeded is counted. -/
  updated : metrics.updated = (Transcript.sent journal.steps).countP (·.wrote .updated)
  /-- Every pass that found nothing to do is counted. -/
  unchanged : metrics.unchanged = journal.countP (·.done = some .unchanged)
  /-- Every write is told of, or could not be told of. -/
  told : tellings (Transcript.sent journal.steps) + journal.countP (·.isUntold) =
    metrics.created + metrics.updated

/-- Where no pass was made, nothing is counted. -/
theorem Metrics.tally_zero : Metrics.zero.Tally [] := ⟨rfl, rfl, rfl, rfl, rfl, rfl⟩

/-- What is asked in one more pass. -/
theorem Journal.steps_append (journal : Journal) (entry : PassEntry) :
    Journal.steps (journal ++ [entry]) = journal.steps ++ entry.steps := by
  simp [steps]

/-- A change is a creation or a replacement. -/
theorem PassEntry.toNat_isChange (entry : PassEntry) : entry.isChange.toNat =
    (if entry.done = some .created then 1 else 0) +
      if entry.done = some .updated then 1 else 0 := by
  obtain ⟨_, _, done⟩ := entry
  cases done with
  | none => rfl
  | some operation => cases operation <;> rfl

section

variable {setting : Setting} {cache : EventCache} {queued : Policy} {journal : Journal}
  {entry : PassEntry} {metrics : Metrics}

/-- One more pass that is accounted for keeps the counters what they are to be. -/
theorem Metrics.Tally.step (tally : metrics.Tally journal)
    (accounted : setting.Accounted cache queued entry.steps entry.done) :
    ((metrics.counting entry.done).reconciled (Setting.succeeded entry.turn.result)).Tally
      (journal ++ [entry]) := by
  obtain ⟨oneMore, oneMoreFailed⟩ :=
    passes_reconciled (metrics.counting entry.done) (Setting.succeeded entry.turn.result)
  obtain ⟨okSame, failedSame⟩ := passes_counting entry.done metrics
  have counts (operation : WriteOperation) :
      ((metrics.counting entry.done).reconciled
        (Setting.succeeded entry.turn.result)).writes operation =
      metrics.writes operation + if entry.done = some operation then 1 else 0 :=
    (writes_reconciled ..).trans (writes_counting ..)
  have created := counts .created
  have updated := counts .updated
  have unchanged := counts .unchanged
  simp only [writes] at created updated unchanged
  have wrote (operation : WriteOperation) (change : operation.isChange) :
      (Transcript.sent (Journal.steps (journal ++ [entry]))).countP (·.wrote operation) =
        (Transcript.sent journal.steps).countP (·.wrote operation) +
          if entry.done = some operation then 1 else 0 := by
    rw [Journal.steps_append, Transcript.sent_append, List.countP_append,
      accounted.writes operation]
    simp only [change, true_and]
  constructor
  case passes =>
    rw [oneMore, okSame, failedSame, tally.passes, List.length_append]
    rfl
  case failed =>
    rw [oneMoreFailed, failedSame, tally.failed, List.countP_append, List.countP_singleton,
      Turn.failed]
    cases Setting.succeeded entry.turn.result <;> rfl
  case created => rw [created, wrote .created rfl, tally.created]
  case updated => rw [updated, wrote .updated rfl, tally.updated]
  case unchanged =>
    rw [unchanged, List.countP_append, List.countP_singleton, tally.unchanged]
    simp only [decide_eq_true_eq]
  case told =>
    have last : [entry].countP (·.isUntold) = entry.isUntold.toNat := by
      rw [List.countP_singleton]
      cases entry.isUntold <;> rfl
    have told := PassEntry.tellings_add_isUntold accounted
    have toldBefore := tally.told
    rw [PassEntry.toNat_isChange] at told
    rw [Journal.steps_append, Transcript.sent_append, tellings_append, List.countP_append, last,
      created, updated]
    omega

/-- Passes that are accounted for keep the counters what they are to be. -/
theorem Setting.Makes.tally {occasions : List Occasion} {before after : Ledger}
    {earlier : Journal} (makes : setting.Makes before occasions journal after)
    (tally : before.metrics.Tally earlier) : after.metrics.Tally (earlier ++ journal) := by
  -- The passes that were made before are carried along, as the counters go on from them.
  induction makes generalizing earlier with
  | nil ledger =>
    rw [List.append_nil]
    exact tally
  | cons goes accounted metrics later ih =>
    have stepped := tally.step accounted
    rw [← metrics] at stepped
    rw [List.append_cons]
    exact ih stepped

/-- Passes over policies with names are made one after the other, each of them accounted for. -/
theorem Setting.turns_makes (looks : setting.Surveys) {occasions : List Occasion}
    {ledger after : Ledger} {t : Transcript world} {ended : List (Except NamelessObject Turn)}
    (named : ∀ occasion ∈ occasions, occasion.policy.metadata.name ≠ none)
    (filed : ledger.events.Filed)
    (goes : ((setting.turns occasions).run ledger).Goes t (ended, after)) :
    ∃ journal : Journal, setting.Makes ledger occasions journal after ∧ t = journal.steps ∧
      ended = journal.map fun entry => .ok entry.turn := by
  induction occasions generalizing ledger t ended with
  | nil =>
    obtain ⟨rfl, same⟩ := goes
    cases same
    exact ⟨[], .nil after, rfl, rfl⟩
  | cons occasion rest ih =>
    have ⟨isNamed, namedLater⟩ := List.forall_mem_cons.1 named
    obtain ⟨object, identified⟩ := Metadata.identified isNamed
    have looksThen : { setting with leadership := occasion.leadership }.Surveys := looks
    obtain ⟨now, later, first, endedLater, between, rfl, rfl, begins, goesOn⟩ :=
      turns_cons_goes goes
    obtain ⟨turn, left, rfl, passes, counted, _⟩ := turn_goes identified begins
    obtain ⟨done, accounted, countedWrite⟩ := pass_accounts looksThen filed passes
    have stays : between.events.Filed := turn_staysFiled.of_goes begins filed
    obtain ⟨journal, makes, rfl, rfl⟩ := ih namedLater stays goesOn
    refine ⟨⟨now, turn, done⟩ :: journal, .cons begins accounted ?_ makes, rfl, rfl⟩
    rw [counted, countedWrite]

end

/-- Whatever passes are made over policies with names, in whatever order and however they are
answered, the counters are what was done in them: each pass is counted by how it ended, each write
that succeeded and each pass that found nothing to do as such, and each write is told of by an event
once, unless the event makes no address. -/
theorem Setting.turns_account (setting : Setting)
    (source : setting.lookUp = PeerFirewall.lookUp ∨
      ∃ info : ClusterInfo, setting.lookUp = info.read)
    (occasions : List Occasion)
    (named : ∀ occasion ∈ occasions, occasion.policy.metadata.name ≠ none) (after : Ledger)
    (t : Transcript world) (ended : List (Except NamelessObject Turn))
    (goes : ((setting.turns occasions).run .fresh).Goes t (ended, after)) :
    ∃ journal : Journal, setting.Makes .fresh occasions journal after ∧ t = journal.steps ∧
      (ended = journal.map fun entry => .ok entry.turn) ∧ after.metrics.Tally journal := by
  obtain ⟨journal, makes, asked, ends⟩ :=
    turns_makes (surveys_of_source source) named EventCache.filed_empty goes
  exact ⟨journal, makes, asked, ends, makes.tally Metrics.tally_zero⟩

namespace Setting

/-- Occasions for passes over one policy: first for the instance that holds the lease, then for
another one, and then again for the first. -/
def retried : List Occasion :=
  let here := marked "rules" "liqo-tenant-c"
  let holding : Occasion := ⟨served.leadership, here⟩
  [holding, ⟨⟨⟨"other", ⟨1, 0⟩⟩, "host"⟩, here⟩, holding, holding]

/-- The firewall configuration for a policy without rules. -/
def ruleless : Firewall where
  metadata := { Metadata.empty with
    name := some "c-security-fabric"
    «namespace» := some "liqo-tenant-c"
    labels := some FabricLabel.firewallLabels
    ownerReferences := some [⟨"connectivity.liqo.io/v1", "PeeringConnectivity", "rules", "u1",
      some true, none⟩] }
  spec := ⟨compiledTable [] [baselineRule]⟩

/-- Replies to the passes. A creation comes too late once and then succeeds, but the status cannot
be written. Later the configuration is found as it should be, and then otherwise. -/
def retrying : List Reply :=
  let policy := Store.reply (marked "rules" "liqo-tenant-c").encode
  let stored := Store.reply ruleless.encode
  let absent := Store.refusal 404 "NotFound"
  let accepted := Store.reply (.obj [])
  [policy, absent, Store.refusal 409 "AlreadyExists", absent, stored, accepted,
      Store.refusal 500 "InternalError",
    policy, stored, policy,
    policy, Store.reply Firewall.plain.encode, stored, accepted, policy]

/-- A pass that creates the configuration but cannot write the status, one that another instance has
to make, one that finds nothing to do and one that puts the configuration right: each of them is
counted once, and the two writes are told of. -/
theorem turns_account_retried :
    (∀ occasion ∈ retried, occasion.policy.metadata.name ≠ none) ∧
      ∃ t ended after, ((served.turns retried).run .fresh).Goes t (ended, after) ∧
        after.metrics = ⟨3, 1, 1, 1, 1⟩ ∧ tellings (Transcript.sent t) = 2 ∧
        ∃ journal : Journal, served.Makes .fresh retried journal after ∧ t = journal.steps ∧
          journal.countP (·.turn.failed) = 1 ∧
          (Transcript.sent t).countP (·.wrote .created) = 1 ∧
          (Transcript.sent t).countP (·.wrote .updated) = 1 ∧
          journal.countP (·.done = some .unchanged) = 1 ∧ journal.countP (·.isUntold) = 0 := by
  have named : ∀ occasion ∈ retried, occasion.policy.metadata.name ≠ none := by decide
  have ends : tellings (Transcript.sent
        (((served.turns retried).run .fresh).transcript Firewall.inTurn retrying)) = 2 ∧
      (((served.turns retried).run .fresh).run Firewall.inTurn retrying).1.2.metrics =
        ⟨3, 1, 1, 1, 1⟩ := by
    decide +kernel
  have goes := Program.goes_run Firewall.inTurn ((served.turns retried).run .fresh) retrying
  -- The passes are not run again to see how they are counted.
  generalize (((served.turns retried).run .fresh).run Firewall.inTurn retrying).1 = ran
    at ends goes
  generalize ((served.turns retried).run .fresh).transcript Firewall.inTurn retrying = t
    at ends goes
  obtain ⟨ended, after⟩ := ran
  obtain ⟨told, counted⟩ : tellings (Transcript.sent t) = 2 ∧ after.metrics = ⟨3, 1, 1, 1, 1⟩ :=
    ends
  obtain ⟨journal, makes, rfl, _, tally⟩ :=
    turns_account served (.inr ⟨.standard, rfl⟩) retried named after t ended goes
  have untold := tally.told
  rw [told, counted] at untold
  refine ⟨named, _, ended, after, goes, counted, told, journal, makes, rfl, ?_, ?_, ?_, ?_, ?_⟩
  · rw [← tally.failed, counted]
  · rw [← tally.created, counted]
  · rw [← tally.updated, counted]
  · rw [← tally.unchanged, counted]
  · exact Nat.add_left_cancel untold

/-- One occasion for a pass. -/
def once : List Occasion := [⟨served.leadership, marked "rules" "liqo-tenant-c"⟩]

/-- Replies to a pass over a policy about whose namespace no event can be told: its configuration is
created. -/
def misplacing : List Reply :=
  let policy := Store.reply (marked "rules" "a b").encode
  [policy, Store.refusal 404 "NotFound", Store.reply ruleless.encode, policy]

/-- It is not so that every write is told of: a write for a policy about whose namespace no event
can be told is not. -/
theorem turns_tell_nothing_misplaced :
    ¬ ∀ (setting : Setting), (setting.lookUp = PeerFirewall.lookUp ∨
        ∃ info : ClusterInfo, setting.lookUp = info.read) →
      ∀ occasions : List Occasion,
      (∀ occasion ∈ occasions, occasion.policy.metadata.name ≠ none) →
      ∀ (after : Ledger) (t : Transcript world) (ended : List (Except NamelessObject Turn)),
      ((setting.turns occasions).run .fresh).Goes t (ended, after) →
      tellings (Transcript.sent t) = after.metrics.created + after.metrics.updated := by
  intro always
  have named : ∀ occasion ∈ once, occasion.policy.metadata.name ≠ none := by decide
  have ends : tellings (Transcript.sent
        (((served.turns once).run .fresh).transcript Firewall.inTurn misplacing)) = 0 ∧
      (((served.turns once).run .fresh).run Firewall.inTurn misplacing).1.2.metrics.created =
        1 := by
    decide +kernel
  have goes := Program.goes_run Firewall.inTurn ((served.turns once).run .fresh) misplacing
  generalize (((served.turns once).run .fresh).run Firewall.inTurn misplacing).1 = ran
    at ends goes
  obtain ⟨ended, after⟩ := ran
  have told := always served (.inr ⟨.standard, rfl⟩) once named after _ ended goes
  rw [ends.1] at told
  have created : after.metrics.created = 1 := ends.2
  omega

end Setting

end PeerFirewall
