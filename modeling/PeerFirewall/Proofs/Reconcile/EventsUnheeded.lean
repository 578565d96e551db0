import PeerFirewall.Proofs.Reconcile.LevelTriggered

/-!
# Events are not heeded

Whatever becomes of the events that passes publish, the passes go the same way: in two worlds that
answer everything but requests about events alike, the same else is asked, every pass ends alike and
the same is counted (`Setting.turns_heedsNoEvents`). What is compared are the ends of two runs
(`Program.Alike`), and each part of a pass keeps them alike whatever events are remembered
(`Pass.HeedsNoEvents`).
-/
namespace PeerFirewall

/-! ### Worlds that answer alike -/

/-- Whether a question is about events. -/
def WorldQuestion.isAboutEvents : WorldQuestion → Bool
  | send request => request.endpoint.concerns .event
  | clock | look _ => false

/-- A transcript without what is about events. -/
def Transcript.pastEvents (t : Transcript world) : Transcript world :=
  t.filter fun step => !WorldQuestion.isAboutEvents step.1

/-- What is about no events in two transcripts one after the other. -/
theorem Transcript.pastEvents_append (first second : Transcript world) :
    pastEvents (first ++ second) = pastEvents first ++ pastEvents second :=
  List.filter_append first second

/-- How a world answers, as everything that it has been asked before and has answered decides. -/
structure Answering where
  answer (history : Transcript world) (question : world.Question) : world.Answer question

namespace Answering

/-- The history with one more question and its answer. -/
def extend (answering : Answering) (question : world.Question) (history : Transcript world) :
    Transcript world :=
  history ++ [⟨question, answering.answer history question⟩]

/-- Answers a question and takes it into the history. -/
def respond (answering : Answering) (question : world.Question) (history : Transcript world) :
    world.Answer question × Transcript world :=
  (answering.answer history question, answering.extend question history)

/-- Whether two worlds answer alike what is about no events, where the same of that sort has been
asked and answered before. -/
def AlikePastEvents (first second : Answering) : Prop :=
  ∀ h k : Transcript world, h.pastEvents = k.pastEvents →
    ∀ question : WorldQuestion, question.isAboutEvents = false →
      first.answer h question = second.answer k question

/-- A question about events is no part of what is past events. -/
theorem pastEvents_extend_event (answering : Answering) {question : WorldQuestion}
    (isEvent : question.isAboutEvents = true) (history : Transcript world) :
    (answering.extend question history).pastEvents = history.pastEvents := by
  have dropped : Transcript.pastEvents [⟨question, answering.answer history question⟩] = [] :=
    List.filter_cons_of_neg (by simp [isEvent])
  unfold extend
  rw [Transcript.pastEvents_append, dropped, List.append_nil]

variable {first second : Answering} {h k : Transcript world}

/-- Histories that are the same past events stay so with a question that is about no events. -/
theorem AlikePastEvents.extend (alike : first.AlikePastEvents second)
    (same : h.pastEvents = k.pastEvents) {question : WorldQuestion}
    (noEvent : question.isAboutEvents = false) :
    (first.extend question h).pastEvents = (second.extend question k).pastEvents := by
  have answers : first.answer h question = second.answer k question :=
    alike h k same question noEvent
  unfold Answering.extend
  rw [Transcript.pastEvents_append, Transcript.pastEvents_append, same, answers]

end Answering

/-! ### Programs that go alike -/

namespace Program

variable {α β γ δ : Type} {first second : Answering}

/-- Whether two programs, each in a world of its own, ask the same past events and end in related
ways, where what was asked before is the same past events. -/
def Alike (first second : Answering) (related : α → β → Prop) (p : Program world α)
    (q : Program world β) : Prop :=
  ∀ h k : Transcript world, h.pastEvents = k.pastEvents →
    (p.run first.respond h).2.pastEvents = (q.run second.respond k).2.pastEvents ∧
      related (p.run first.respond h).1 (q.run second.respond k).1

variable {related : α → β → Prop}

/-- Programs that have ended go alike if their ends are related. -/
theorem alike_done {a : α} {b : β} (relates : related a b) :
    Alike first second related (done a) (done b) :=
  fun _ _ same => ⟨same, relates⟩

/-- Programs that go alike and go on alike from related ends go alike. -/
theorem Alike.bind {after : γ → δ → Prop} {p : Program world α} {q : Program world β}
    {f : α → Program world γ} {g : β → Program world δ} (begins : Alike first second related p q)
    (goesOn : ∀ a b, related a b → Alike first second after (f a) (g b)) :
    Alike first second after (p.bind f) (q.bind g) := by
  intro h k same
  obtain ⟨sameThen, relates⟩ := begins h k same
  rw [run_bind, run_bind]
  exact goesOn _ _ relates _ _ sameThen

/-- A program that asks nothing about events ends alike in worlds that answer everything else
alike. -/
theorem alike_self (alike : first.AlikePastEvents second) {p : Program world α}
    (asks : p.Asks fun question => WorldQuestion.isAboutEvents question = false) :
    Alike first second Eq p p := by
  induction p with
  | done a => exact alike_done rfl
  | ask question next ih =>
    intro h k same
    have answers : first.answer h question = second.answer k question :=
      alike h k same question asks.1
    have sameThen : (first.extend question h).pastEvents = (second.extend question k).pastEvents :=
      alike.extend same asks.1
    have goesOn := ih (first.answer h question) (asks.2 _) _ _ sameThen
    rw [run, run]
    simp only [Answering.respond, ← answers]
    exact goesOn

/-- A program that asks about events only leaves what is past events as it was. -/
theorem pastEvents_run {p : Program world α}
    (asks : p.Asks fun question => WorldQuestion.isAboutEvents question = true)
    (answering : Answering) (h : Transcript world) :
    (p.run answering.respond h).2.pastEvents = h.pastEvents := by
  induction p generalizing h with
  | done a => rfl
  | ask question next ih =>
    rw [run]
    exact (ih _ (asks.2 _) _).trans (answering.pastEvents_extend_event asks.1 h)

/-- Programs that ask about events only go alike, whatever they come to. -/
theorem alike_of_events {p : Program world α} {q : Program world β}
    (asks : p.Asks fun question => WorldQuestion.isAboutEvents question = true)
    (asksToo : q.Asks fun question => WorldQuestion.isAboutEvents question = true) :
    Alike first second (fun _ _ => True) p q := by
  intro h k same
  rw [pastEvents_run asks, pastEvents_run asksToo]
  exact ⟨same, trivial⟩

end Program

/-! ### Parts of a pass -/

/-- Whether the same is kept but for the events. -/
structure Ledger.SameCounts (ledger other : Ledger) : Prop where
  metrics : ledger.metrics = other.metrics
  failures : ledger.failures = other.failures

/-- Whether a part of a pass does not heed what becomes of events, in either of two worlds. -/
def Pass.HeedsNoEvents {α : Type} (first second : Answering) (part : Pass α) : Prop :=
  ∀ ledger other : Ledger, ledger.SameCounts other →
    Program.Alike first second (fun ended endedToo =>
      ended.1 = endedToo.1 ∧ ended.2.SameCounts endedToo.2) (part.run ledger) (part.run other)

namespace Pass

variable {α β : Type} {first second : Answering}

/-- A part that does nothing heeds nothing. -/
theorem heedsNoEvents_pure (a : α) : HeedsNoEvents first second (pure a) :=
  fun _ _ same => Program.alike_done ⟨rfl, same⟩

/-- Parts that heed no events heed none together. -/
theorem HeedsNoEvents.bind {part : Pass α} {f : α → Pass β}
    (begins : HeedsNoEvents first second part) (goesOn : ∀ a, HeedsNoEvents first second (f a)) :
    HeedsNoEvents first second (part >>= f) := by
  intro ledger other same
  rw [Program.run_stateT_bind, Program.run_stateT_bind]
  refine (begins ledger other same).bind fun ended endedToo relates => ?_
  obtain ⟨a, after⟩ := ended
  obtain ⟨_, afterToo⟩ := endedToo
  obtain ⟨rfl, sameThen⟩ := relates
  exact goesOn a after afterToo sameThen

/-- A part that asks nothing about events and does not touch what is kept heeds no events. -/
theorem heedsNoEvents_lift (alike : first.AlikePastEvents second) {p : Program world α}
    (asks : p.Asks fun question => WorldQuestion.isAboutEvents question = false) :
    HeedsNoEvents first second (liftM p : Pass α) := by
  intro ledger other same
  refine (Program.alike_self alike asks).bind fun a b relates => ?_
  exact Program.alike_done ⟨relates, same⟩

/-- A change of what is kept that treats alike what is the same but for the events heeds none. -/
theorem heedsNoEvents_modify {update : Ledger → Ledger}
    (keeps : ∀ ledger other, ledger.SameCounts other → (update ledger).SameCounts (update other)) :
    HeedsNoEvents first second (modify update) :=
  fun ledger other same => Program.alike_done ⟨rfl, keeps ledger other same⟩

end Pass

/-- Publishing an event asks the same past events whatever events are remembered. -/
theorem EventCache.publish_alike {first second : Answering} (alike : first.AlikePastEvents second)
    («instance» : String) (subject : EventSubject) (content : EventNote)
    (cache cacheToo : EventCache) :
    Program.Alike first second (fun _ _ => True)
      (EventCache.publish «instance» subject content cache)
      (EventCache.publish «instance» subject content cacheToo) := by
  have tells (event : ClusterEvent)
      (keep : Except ApiError Unit → Program world (Unit × EventCache))
      (ends : ∀ result, ∃ ended, keep result = .done ended) :
      Program.Asks (fun question => WorldQuestion.isAboutEvents question = true)
        ((ApiCall.exchange ClusterEvent.check event.request).run.bind keep) := by
    have isEvent : WorldQuestion.isAboutEvents (.send event.request) = true := by
      rw [WorldQuestion.isAboutEvents, Endpoint.concerns, event.objects?_request]
      exact decide_eq_true (show event.collection.kind = .event from rfl)
    refine Program.Asks.bind (ApiCall.asks_send isEvent) fun result => ?_
    obtain ⟨ended, same⟩ := ends result
    rw [same]
    trivial
  have reads : Program.Alike first second Eq readClock readClock :=
    Program.alike_self alike ⟨rfl, fun _ => trivial⟩
  refine reads.bind fun now _ _ => ?_
  refine Program.alike_of_events (tells _ _ fun result => ?_) (tells _ _ fun result => ?_)
  · cases result <;> exact ⟨_, rfl⟩
  · cases result <;> exact ⟨_, rfl⟩

/-- An occasion for a pass: the policy that is due, and who holds the lease by then. -/
structure Occasion where
  leadership : Leadership
  policy : Policy

namespace Setting

open Pass

variable {setting : Setting} {first second : Answering} {space : String} {policy : Policy}

/-- Whether looking at the state of the cluster is about no events. -/
def LooksPastEvents (setting : Setting) : Prop :=
  ∀ query, (setting.lookUp query).Asks fun question => WorldQuestion.isAboutEvents question = false

/-- What tells of the state of the cluster is about no events. -/
theorem Surveys.looksPastEvents (surveys : setting.Surveys) : setting.LooksPastEvents := by
  intro query
  refine (surveys query).imp fun question survey => ?_
  cases question with
  | send request =>
    have other : ¬ Kind.event.IsSurveyed := by decide
    exact Request.not_concerns_of_survey survey other
  | clock | look query => rfl

/-- Announcing something does not heed what becomes of the event. -/
theorem announce_heedsNoEvents (alike : first.AlikePastEvents second) (content : EventNote) :
    HeedsNoEvents first second (setting.announce policy content) := by
  intro ledger other same
  refine (EventCache.publish_alike alike _ _ content ledger.events other.events).bind ?_
  intro _ _ _
  exact Program.alike_done ⟨rfl, ⟨same.metrics, same.failures⟩⟩

/-- A request about firewall configurations is not about events. -/
theorem firewall_ne_event : decide (Kind.firewall = .event) = false := by decide

/-- A request about policies is not about events. -/
theorem policy_ne_event : decide (Kind.policy = .event) = false := by decide

/-- Writing the status of a policy is not about events. -/
theorem updateStatus_pastEvents (outcome : Outcome) :
    (policy.updateStatus space outcome).run.Asks fun question =>
      WorldQuestion.isAboutEvents question = false :=
  Policy.asks_updateStatus rfl fun _ => policy_ne_event

/-- Reporting a failure does not heed what becomes of the event. -/
theorem reportFailure_heedsNoEvents (alike : first.AlikePastEvents second) (outcome : Outcome) :
    HeedsNoEvents first second (setting.reportFailure space policy outcome) :=
  (heedsNoEvents_lift alike (updateStatus_pastEvents outcome)).bind fun _ =>
    announce_heedsNoEvents alike _

/-- Reporting success does not heed events. -/
theorem reportSuccess_heedsNoEvents (alike : first.AlikePastEvents second) :
    HeedsNoEvents first second ((liftM (policy.updateStatus space .synced).run : Pass _) >>= fun
      | .error error => return .error (.api error)
      | .ok () => return .ok (.requeue setting.resync) : Pass (Except SyncError Action)) := by
  refine (heedsNoEvents_lift alike (updateStatus_pastEvents .synced)).bind fun written => ?_
  cases written <;> exact heedsNoEvents_pure _

/-- Dealing with a policy that is there to stay heeds no events. -/
theorem apply_heedsNoEvents (alike : first.AlikePastEvents second)
    (looks : setting.LooksPastEvents) :
    HeedsNoEvents first second (setting.apply space policy) := by
  unfold apply
  cases setting.info.tenants.clusterId space with
  | error error =>
    exact (reportFailure_heedsNoEvents alike _).bind fun _ => heedsNoEvents_pure _
  | ok clusterId =>
    have syncs : (setting.sync space clusterId policy).Asks fun question =>
        WorldQuestion.isAboutEvents question = false :=
      asks_sync looks fun _ _ _ =>
        ⟨firewall_ne_event, firewall_ne_event, fun _ => firewall_ne_event⟩
    refine (heedsNoEvents_lift alike syncs).bind fun brought => ?_
    cases brought with
    | error error =>
      exact (reportFailure_heedsNoEvents alike _).bind fun _ => heedsNoEvents_pure _
    | ok operation =>
      have counts : HeedsNoEvents first second (modify fun ledger : Ledger =>
          { ledger with metrics := ledger.metrics.wrote operation }) :=
        heedsNoEvents_modify fun _ _ same =>
          ⟨congrArg (Metrics.wrote operation) same.metrics, same.failures⟩
      refine counts.bind fun _ => ?_
      change HeedsNoEvents first second (if _ then _ else _)
      split
      · exact (announce_heedsNoEvents alike _).bind fun _ => reportSuccess_heedsNoEvents alike
      · exact reportSuccess_heedsNoEvents alike

/-- Cleaning up heeds no events. -/
theorem cleanup_heedsNoEvents (alike : first.AlikePastEvents second) :
    HeedsNoEvents first second (setting.cleanup space) := by
  unfold cleanup
  cases setting.info.tenants.clusterId space with
  | error error => exact heedsNoEvents_pure _
  | ok clusterId =>
    refine (heedsNoEvents_lift alike
      (Firewall.asks_remove firewall_ne_event)).bind ?_
    intro removed
    cases removed <;> exact heedsNoEvents_pure _

/-- A patch of the finalizers heeds no events if what comes after it heeds none. -/
theorem patchFinalizers_heedsNoEvents {α : Type} (alike : first.AlikePastEvents second)
    (name : String) (body : Json) {f : Except ApiError Policy → Pass α}
    (later : ∀ patched, HeedsNoEvents first second (f patched)) :
    HeedsNoEvents first second ((liftM (patchFinalizers space name body) : Pass _) >>= f) :=
  (heedsNoEvents_lift alike (asks_patchFinalizers policy_ne_event)).bind later

/-- Dealing with a policy as it was fetched heeds no events. -/
theorem finalize_heedsNoEvents (alike : first.AlikePastEvents second)
    (looks : setting.LooksPastEvents) :
    HeedsNoEvents first second (setting.finalize space policy) := by
  cases policy.stage with
  | arriving unmarked kept named =>
    rw [finalize_arriving unmarked kept named]
    refine patchFinalizers_heedsNoEvents alike _ _ fun patched => ?_
    cases patched <;> exact heedsNoEvents_pure _
  | staying marked kept =>
    rw [finalize_staying marked kept]
    exact (apply_heedsNoEvents alike looks).bind fun _ => heedsNoEvents_pure _
  | leaving marked deleted named =>
    rw [finalize_leaving marked deleted named]
    refine (cleanup_heedsNoEvents alike).bind fun cleaned => ?_
    cases cleaned with
    | error error => exact heedsNoEvents_pure _
    | ok action =>
      refine patchFinalizers_heedsNoEvents alike _ _ fun patched => ?_
      cases patched <;> exact heedsNoEvents_pure _
  | released unmarked deleted =>
    rw [finalize_released unmarked deleted]
    exact heedsNoEvents_pure _
  | unnamed unnamed unsettled =>
    rw [finalize_unnamed unnamed unsettled]
    exact heedsNoEvents_pure _

/-- A pass heeds no events. -/
theorem pass_heedsNoEvents (alike : first.AlikePastEvents second)
    (looks : setting.LooksPastEvents) (queued : Policy) :
    HeedsNoEvents first second (setting.pass queued) := by
  have tells : HeedsNoEvents first second (liftM readClock : Pass Time.Instant) :=
    heedsNoEvents_lift alike ⟨rfl, fun _ => trivial⟩
  refine tells.bind fun now => ?_
  change HeedsNoEvents first second (if _ then _ else _)
  split
  · cases queued.metadata.namespace with
    | none => exact heedsNoEvents_pure _
    | some space =>
      have reads : (ApiCall.get? (some space) queued.metadata.displayName :
          ApiCall (Option Policy)).run.Asks fun question =>
            WorldQuestion.isAboutEvents question = false := ApiCall.asks_get? policy_ne_event
      refine (heedsNoEvents_lift alike reads).bind fun found => ?_
      match found with
      | .error error => exact heedsNoEvents_pure _
      | .ok none => exact heedsNoEvents_pure _
      | .ok (some fetched) =>
        exact (finalize_heedsNoEvents alike looks).bind fun _ => heedsNoEvents_pure _
  · exact heedsNoEvents_pure _

/-- A pass that is counted heeds no events. -/
theorem reconcile_heedsNoEvents (alike : first.AlikePastEvents second)
    (looks : setting.LooksPastEvents) (queued : Policy) :
    HeedsNoEvents first second (setting.reconcile queued) := by
  refine (pass_heedsNoEvents alike looks queued).bind fun result => ?_
  have counts : HeedsNoEvents first second (modify fun ledger : Ledger =>
      { ledger with metrics := ledger.metrics.reconciled (succeeded result) }) :=
    heedsNoEvents_modify fun _ _ same =>
      ⟨congrArg (Metrics.reconciled (succeeded result)) same.metrics, same.failures⟩
  refine counts.bind fun _ => ?_
  cases result with
  | error error => exact heedsNoEvents_pure _
  | ok action =>
    cases queued.metadata.objectName with
    | error complaint => exact heedsNoEvents_pure _
    | ok object =>
      have clears : HeedsNoEvents first second (modify fun ledger : Ledger =>
          { ledger with failures := ledger.failures.clear object }) :=
        heedsNoEvents_modify fun _ _ same =>
          ⟨same.metrics, congrArg (Failures.clear · object) same.failures⟩
      exact clears.bind fun _ => heedsNoEvents_pure _

/-- A pass after which it is settled when the next one is made heeds no events. -/
theorem turn_heedsNoEvents (alike : first.AlikePastEvents second)
    (looks : setting.LooksPastEvents) (queued : Policy) :
    HeedsNoEvents first second (setting.turn queued) := by
  refine (reconcile_heedsNoEvents alike looks queued).bind fun ended => ?_
  match ended with
  | .error complaint => exact heedsNoEvents_pure _
  | .ok (.ok action) => exact heedsNoEvents_pure _
  | .ok (.error error) =>
    intro ledger other same
    simp only [Ledger.retry]
    cases queued.metadata.objectName with
    | error complaint => exact Program.alike_done ⟨rfl, same⟩
    | ok object =>
      have counted : (ledger.failures.record object) = other.failures.record object :=
        congrArg (Failures.record · object) same.failures
      refine Program.alike_done ⟨?_, same.metrics, counted⟩
      simp only [counted]

/-- A sequence of passes, and how each of them ended. -/
def turns (setting : Setting) : List Occasion → Pass (List (Except NamelessObject Turn))
  | [] => return []
  | occasion :: rest => do
    let ended ← { setting with leadership := occasion.leadership }.turn occasion.policy
    let later ← setting.turns rest
    return ended :: later

/-- A sequence of passes goes as its first pass does and then the others. -/
theorem turns_cons_goes {occasion : Occasion} {rest : List Occasion} {ledger after : Ledger}
    {t : Transcript world} {ended : List (Except NamelessObject Turn)}
    (goes : ((setting.turns (occasion :: rest)).run ledger).Goes t (ended, after)) :
    ∃ now later first endedLater between, t = now ++ later ∧ ended = first :: endedLater ∧
      (({ setting with leadership := occasion.leadership }.turn occasion.policy).run
        ledger).Goes now (first, between) ∧
      ((setting.turns rest).run between).Goes later (endedLater, after) := by
  unfold turns at goes
  rw [Program.run_stateT_bind, Program.goes_bind] at goes
  obtain ⟨now, _, ⟨first, between⟩, rfl, begins, goes⟩ := goes
  rw [Program.run_stateT_bind, Program.goes_bind] at goes
  obtain ⟨later, _, ⟨endedLater, _⟩, rfl, goesOn, rfl, same⟩ := goes
  cases same
  exact ⟨now, later, first, endedLater, between, by rw [List.append_nil], rfl, begins, goesOn⟩

/-- A sequence of passes heeds no events. -/
theorem turns_heedsNoEvents (alike : first.AlikePastEvents second)
    (looks : setting.LooksPastEvents) (occasions : List Occasion) :
    HeedsNoEvents first second (setting.turns occasions) := by
  induction occasions with
  | nil => exact heedsNoEvents_pure _
  | cons occasion rest ih =>
    have looksThen : { setting with leadership := occasion.leadership }.LooksPastEvents := looks
    refine (turn_heedsNoEvents alike looksThen occasion.policy).bind fun ended => ?_
    exact ih.bind fun later => heedsNoEvents_pure _

/-! ### Failures to bring up to date -/

/-- Brings the firewall configuration for a policy up to date, where the namespace names a peer. -/
def bring (setting : Setting) (space : String) (policy : Policy) :
    Program world (Except SyncError WriteOperation) :=
  match setting.info.tenants.clusterId space with
  | .error error => return .error (.clusterId error)
  | .ok clusterId => setting.sync space clusterId policy

variable {ledger after : Ledger} {bringing more t : Transcript world} {error : SyncError}

/-- A pass that has failed to bring the firewall configuration up to date ends with that failure,
whatever the report of it is answered. -/
theorem apply_fails {result : Except SyncError Action}
    (brings : (setting.bring space policy).Goes bringing (.error error))
    (goes : ((setting.apply space policy).run ledger).Goes (bringing ++ more) (result, after)) :
    result = .error error := by
  unfold bring at brings
  unfold apply at goes
  cases isPeer : setting.info.tenants.clusterId space with
  | error complaint =>
    simp only [isPeer] at brings goes
    obtain ⟨rfl, same⟩ := brings
    rw [Program.run_stateT_bind, Program.goes_bind] at goes
    obtain ⟨_, _, _, _, _, rfl, ends⟩ := goes
    cases same
    cases ends
    rfl
  | ok clusterId =>
    simp only [isPeer] at brings goes
    rw [Program.run_stateT_lift_bind, Program.goes_bind] at goes
    obtain ⟨syncing, reporting, brought, split, syncs, goes⟩ := goes
    -- What was brought about is settled by the answers that bringing it about was given.
    obtain ⟨_, same⟩ := syncs.unique brings split.symm
    cases same
    simp only at goes
    rw [Program.run_stateT_bind, Program.goes_bind] at goes
    obtain ⟨_, _, _, _, _, _, ends⟩ := goes
    cases ends
    rfl

/-- A pass over a policy that is there to stay ends with the failure to bring the firewall
configuration up to date, if there is one, whatever the report of it is answered. -/
theorem pass_fails {queued fetched : Policy} {result : Except PassError Action}
    (isFetched : queued.Fetched space fetched t (bringing ++ more)) (stays : fetched.Stays)
    (brings : (setting.bring space fetched).Goes bringing (.error error))
    (goes : ((setting.pass queued).run ledger).Goes t (result, after)) :
    result = .error (.finalizer (.applyFailed error)) := by
  obtain ⟨finalized, deals, rfl⟩ := pass_settledByFetched goes isFetched
  obtain ⟨applied, applies, rfl⟩ := finalize_applies stays deals
  rw [apply_fails brings applies]
  rfl

/-! ### Sequences of passes -/

/-- How a sequence of passes ends in a world, with what is kept and all that has been asked. -/
def turnsIn (setting : Setting) (answering : Answering) (occasions : List Occasion)
    (ledger : Ledger) (history : Transcript world) :
    (List (Except NamelessObject Turn) × Ledger) × Transcript world :=
  ((setting.turns occasions).run ledger).run answering.respond history

/-- Whether what becomes of events and of the reports of failures changes nothing else. -/
structure IgnoresEvents (setting : Setting) : Prop where
  /-- In two worlds that answer alike what is about no events, the same of that sort is asked and
  answered, every pass ends alike and is followed by the next one as soon, and the same is
  counted. -/
  alike : ∀ (first second : Answering), first.AlikePastEvents second →
    ∀ (occasions : List Occasion) (ledger : Ledger) (h k : Transcript world),
    h.pastEvents = k.pastEvents →
    let one := setting.turnsIn first occasions ledger h
    let two := setting.turnsIn second occasions ledger k
    one.2.pastEvents = two.2.pastEvents ∧ one.1.1 = two.1.1 ∧
      one.1.2.failures = two.1.2.failures ∧ one.1.2.metrics = two.1.2.metrics
  /-- A pass that fails to name the peer, to compile the rules or to write the configuration ends
  with that failure. -/
  fails : ∀ (queued fetched : Policy) (space : String) (ledger after : Ledger)
    (t bringing more : Transcript world) (error : SyncError) (result : Except PassError Action),
    queued.Fetched space fetched t (bringing ++ more) → fetched.Stays →
    (setting.bring space fetched).Goes bringing (.error error) →
    ((setting.pass queued).run ledger).Goes t (result, after) →
    result = .error (.finalizer (.applyFailed error))

/-- Where looking at the state of the cluster is about no events, what becomes of events changes
nothing else. -/
theorem turns_ignoreEvents (setting : Setting) (looks : setting.LooksPastEvents) :
    setting.IgnoresEvents where
  alike first second alike occasions ledger h k same := by
    have heedsNone := turns_heedsNoEvents alike looks occasions
    obtain ⟨asked, ended, counts⟩ := heedsNone ledger ledger ⟨rfl, rfl⟩ h k same
    exact ⟨asked, ended, counts.failures, counts.metrics⟩
  fails _ _ _ _ _ _ _ _ _ _ isFetched stays brings goes := pass_fails isFetched stays brings goes

/-- Looking through the API server is about no events. -/
theorem looksPastEvents_read (isRead : setting.lookUp = setting.info.read) :
    setting.LooksPastEvents := (surveys_read isRead).looksPastEvents

/-- A world in which a policy is as it is, no firewall configuration is stored, and events are
published or refused. -/
def publishing (publishes : Bool) (policy : Policy) : Answering where
  answer
    | _, .send request =>
      if request.endpoint.concerns .event && !publishes then Store.refusal 500 "InternalError"
      else (answers policy (.send request) ()).1
    | _, question => (answers policy question ()).1

/-- How a pass over a policy ends whose namespace names no peer, while events are published or
refused. -/
def endPeerless (publishes : Bool) :
    (List (Except NamelessObject Turn) × Ledger) × Transcript world :=
  served.turnsIn (publishing publishes (marked "rules" "default"))
    [⟨served.leadership, marked "rules" "default"⟩] .fresh []

/-- A pass over a policy whose namespace names no peer fails, be the event that tells of it
published or refused; what is remembered of the event is not the same. -/
theorem turns_ignoreEvents_peerless :
    served.IgnoresEvents ∧ (endPeerless true).2.pastEvents = (endPeerless false).2.pastEvents ∧
      (endPeerless true).1.2.metrics = (endPeerless false).1.2.metrics ∧
      ((endPeerless true).1.2.metrics.passesFailed = 1 ∧
        (endPeerless true).1.2.events.entries.length = 1 ∧
        (endPeerless false).1.2.events.entries.length = 0) := by
  have ignores : served.IgnoresEvents := turns_ignoreEvents served (looksPastEvents_read rfl)
  have alike : (publishing true (marked "rules" "default")).AlikePastEvents
      (publishing false (marked "rules" "default")) := by
    intro h k same question noEvent
    cases question with
    | send request =>
      have noEvent : request.endpoint.concerns .event = false := noEvent
      simp only [publishing, noEvent, Bool.false_and]
    | clock => rfl
    | look query => rfl
  have same := ignores.alike _ _ alike [⟨served.leadership, marked "rules" "default"⟩] .fresh []
    [] rfl
  refine ⟨ignores, same.1, ?_, by decide +kernel⟩
  unfold endPeerless
  exact same.2.2.2

end Setting

end PeerFirewall
