import PeerFirewall.Proofs.Api.Address
import PeerFirewall.Proofs.Reconcile.EventsUnheeded
import PeerFirewall.Proofs.Reconcile.Reachable
import PeerFirewall.Proofs.Reconcile.Release

/-!
# Which failures are announced

A pass over a policy that it has fetched warns of a failure by an event if it could not bring the
firewall configuration up to date. Of no other failure it does: not where the status of a policy in
force could not be written, and not where the mark of the controller could not be put on the policy
or taken off it (`Setting.pass_warns`).
-/
namespace PeerFirewall

/-! ### Warnings -/

/-- Whether a request publishes an event that warns of a failed pass over a policy. -/
structure Request.WarnsOf (policy : Policy) (request : Request) : Prop where
  isEvent : request.endpoint.concerns .event
  warning : request.body.bind (·.get? "type") = some (.str "Warning")
  failure : request.body.bind (·.get? "reason") = some (.str "ReconcileError")
  subject : request.body.bind (·.get? "regarding") =
    some (EventSubject.ofMetadata .policy policy.metadata).encode

/-- A request that is not about events warns of nothing. -/
theorem Request.not_warnsOf {policy : Policy} {request : Request}
    (noEvent : request.endpoint.concerns .event = false) : ¬ request.WarnsOf policy := by
  intro warns
  cases noEvent.symm.trans warns.isEvent

namespace ClusterEvent

variable {event : ClusterEvent} {policy : Policy}

/-- The publication of an event holds the event. -/
theorem body_request (event : ClusterEvent) : event.request.body = some event.encode := by
  unfold request
  cases event.series <;> rfl

/-- The members of an event that say what kind of event it is, and about what. -/
theorem get?_encode (event : ClusterEvent) :
    event.encode.get? "type" = some (.str event.content.type.name) ∧
      event.encode.get? "reason" = some (.str event.content.reason) ∧
      event.encode.get? "regarding" = some event.subject.encode := by
  simp [Json.get?_eq_getLast?, encode, Json.valuesOf_present]

/-- An event that is remembered as a failure of a policy warns of that. -/
theorem warnsOf_of_key {message : String}
    (belongs : event.key = Stepwise.eventKey policy (.failed message)) :
    event.request.WarnsOf policy := by
  obtain ⟨isType, isReason, isSubject⟩ := event.get?_encode
  obtain ⟨type, _, reason, subject⟩ := EventKey.mk.inj belongs
  constructor
  case isEvent =>
    rw [Endpoint.concerns, event.objects?_request]
    exact decide_eq_true (show event.collection.kind = .event from rfl)
  case warning => rw [body_request, Option.bind_some, isType, type]; rfl
  case failure => rw [body_request, Option.bind_some, isReason, reason]; rfl
  case subject => rw [body_request, Option.bind_some, isSubject, subject]

/-- An event that is remembered as a success warns of nothing. -/
theorem not_warnsOf_of_key {operation : WriteOperation} {other : Policy}
    (belongs : event.key = Stepwise.eventKey policy (.synced operation)) :
    ¬ event.request.WarnsOf other := by
  intro warns
  obtain ⟨isType, _, _⟩ := event.get?_encode
  have type : event.content.type = .normal := congrArg EventKey.type belongs
  have warning := warns.warning
  rw [body_request, Option.bind_some, isType, type] at warning
  exact absurd warning (by decide)

end ClusterEvent

/-- What the warning of an error says, where there is one. -/
def PassError.warning? : PassError → Option String
  | .finalizer (.applyFailed (.api _)) => none
  | .finalizer (.applyFailed error) => some error.outcome.message
  | _ => none

namespace Setting

variable {setting : Setting} {space : String} {policy : Policy} {cache : EventCache}
  {ledger : Ledger} {t : Transcript world}

/-- Whether it is attempted to warn of a failed pass over a policy: the event is sent, unless it
makes no address. -/
def Warns (setting : Setting) (cache : EventCache) (policy : Policy) (message : String)
    (t : Transcript world) : Prop :=
  ∃ now, WorldStep.clock now ∈ t ∧
    let warning := (setting.announcement cache policy (.failed message) now).request
    warning.WarnsOf policy ∧
      ((∃ reply, WorldStep.sent warning reply ∈ t) ∨ ∃ fault, warning.uri? = .error fault)

/-- Where nothing is remembered, what is announced is a new event. -/
theorem announcement_fresh (content : EventNote) (now : Time.Instant) :
    setting.announcement Ledger.fresh.events policy content now =
      .first setting.instance (.ofMetadata .policy policy.metadata) content now := by
  have nothing : Ledger.fresh.events.find? (Stepwise.eventKey policy content) = none :=
    Keyed.find?_empty _
  rw [announcement, nothing]
  rfl

/-- To announce a failure is to warn of it. -/
theorem Announces.warns {message : String} {telling : Transcript world} (filed : cache.Filed)
    (announces : setting.Announces cache policy (.failed message) telling)
    (within : ∀ step ∈ telling, step ∈ t) : setting.Warns cache policy message t := by
  have warns (now : Time.Instant) :
      (setting.announcement cache policy (.failed message) now).request.WarnsOf policy :=
    ClusterEvent.warnsOf_of_key (key_announcement filed _ now)
  cases announces with
  | sent now reply =>
    exact ⟨now, within _ List.mem_cons_self, warns now,
      .inl ⟨reply, within _ (List.mem_cons_of_mem _ List.mem_cons_self)⟩⟩
  | unaddressed now noAddress =>
    exact ⟨now, within _ List.mem_cons_self, warns now, .inr ⟨_, noAddress⟩⟩

/-- To announce a success is to warn of nothing. -/
theorem Announces.quiet {operation : WriteOperation} {other : Policy} (filed : cache.Filed)
    (announces : setting.Announces cache policy (.synced operation) t) :
    ∀ e ∈ Transcript.sent t, ¬ e.request.WarnsOf other := by
  cases announces with
  | sent now reply =>
    exact List.forall_mem_singleton.2
      (ClusterEvent.not_warnsOf_of_key (key_announcement filed _ now))
  | unaddressed now noAddress => exact List.forall_mem_nil _

/-! ### The parts of a pass -/

/-- What asks nothing about events warns of nothing. -/
theorem quiet_of_asks {α : Type} {p : Program world α} {a : α}
    (asks : p.Asks fun question => WorldQuestion.isAboutEvents question = false)
    (goes : p.Goes t a) : ∀ e ∈ Transcript.sent t, ¬ e.request.WarnsOf policy :=
  fun e member => Request.not_warnsOf (Transcript.sent_of_asks asks goes e member)

/-- Bringing the firewall configuration up to date sends nothing about events. -/
theorem Brings.noEvents (looks : setting.LooksPastEvents)
    {result : Except SyncError WriteOperation}
    (brings : setting.Brings space policy t result) :
    ∀ e ∈ Transcript.sent t, e.request.endpoint.concerns .event = false := by
  cases brings with
  | noPeer noPeer => exact List.forall_mem_nil _
  | uncompiled isPeer compiles => exact Transcript.sent_of_asks (asks_compile looks _) compiles
  | unowned isPeer compiles => exact Transcript.sent_of_asks (asks_compile looks _) compiles
  | @upserted clusterId spec desired compiling upserting written isPeer compiles built upserts =>
    have asks : (desired.upsert space).run.Asks fun question =>
        WorldQuestion.isAboutEvents question = false :=
      Firewall.asks_upsertWithin
        ⟨firewall_ne_event, firewall_ne_event, fun _ => firewall_ne_event⟩ _
    rw [Transcript.sent_append]
    exact List.forall_mem_append.2
      ⟨Transcript.sent_of_asks (asks_compile looks _) compiles,
        Transcript.sent_of_asks asks upserts⟩

/-- Bringing the firewall configuration up to date warns of nothing. -/
theorem Brings.quiet (looks : setting.LooksPastEvents)
    {result : Except SyncError WriteOperation}
    (brings : setting.Brings space policy t result) {other : Policy} :
    ∀ e ∈ Transcript.sent t, ¬ e.request.WarnsOf other :=
  fun e member => Request.not_warnsOf (brings.noEvents looks e member)

/-- That the firewall configuration could not be brought up to date is what the warning says. -/
theorem Brings.warning?_eq {error : SyncError}
    (brings : setting.Brings space policy t (.error error)) :
    PassError.warning? (.finalizer (.applyFailed error)) = some error.outcome.message := by
  generalize same : Except.error error = brought at brings
  cases brings with
  | noPeer | uncompiled | unowned =>
    cases same
    rfl
  | @upserted _ _ _ _ _ written =>
    cases written <;> cases same
    rfl

/-- What a pass over a policy that is not there to stay does: it asks to delete a firewall
configuration and to patch finalizers only, it does not fail to bring a firewall configuration up to
date, and it leaves what is kept as it is. -/
theorem finalize_gone {permitted : WorldQuestion → Prop} (gone : ¬ policy.Stays)
    (permitsDeletion : ∀ name, permitted (.send (Firewall.deletionRequest space name)))
    (permitsPatch : ∀ name patch, permitted (.send (Finalizer.request space name patch))) :
    ((setting.finalize space policy).run ledger).Bounded permitted fun ended =>
      (∀ error, ended.1 ≠ .error (.applyFailed error)) ∧ ended.2 = ledger := by
  cases policy.stage with
  | arriving unmarked kept named =>
    rw [finalize_arriving unmarked kept named, Program.run_stateT_lift_bind]
    refine (asks_patchFinalizers (permitsPatch _ _)).bindBounded fun result => ?_
    cases result <;> exact ⟨nofun, rfl⟩
  | staying marked kept => exact absurd ⟨marked ▸ nofun, kept⟩ gone
  | leaving marked deleted named =>
    rw [finalize_leaving marked deleted named, Program.run_stateT_bind]
    refine (cleanup_bounded fun _ _ => permitsDeletion _).bind fun ended same => ?_
    obtain ⟨_ | action, after⟩ := ended
    · exact ⟨nofun, same⟩
    · simp only
      rw [Program.run_stateT_lift_bind]
      refine (asks_patchFinalizers (permitsPatch _ _)).bindBounded fun result => ?_
      cases result <;> exact ⟨nofun, same⟩
  | released unmarked deleted =>
    rw [finalize_released unmarked deleted]
    exact ⟨nofun, rfl⟩
  | unnamed unnamed unsettled =>
    rw [finalize_unnamed unnamed unsettled]
    exact ⟨nofun, rfl⟩

/-! ### The whole pass -/

/-- Whether a pass over a policy that ended with an error warned of what is to be warned of. -/
structure Warned (setting : Setting) (cache : EventCache) (policy : Policy) (t : Transcript world)
    (error : PassError) : Prop where
  /-- If a warning tells of the error, it was attempted to publish it. -/
  warns : ∀ message, error.warning? = some message → setting.Warns cache policy message t
  /-- If none does, no such warning was published. -/
  quiet : error.warning? = none → ∀ e ∈ Transcript.sent t, ¬ e.request.WarnsOf policy

/-- Where no warning tells of the error, only what is sent matters. -/
theorem Warned.of_quiet {error : PassError} (unannounced : error.warning? = none)
    (quiet : ∀ e ∈ Transcript.sent t, ¬ e.request.WarnsOf policy) :
    setting.Warned cache policy t error := by
  refine ⟨fun message announced => ?_, fun _ => quiet⟩
  cases unannounced.symm.trans announced

/-- What a pass asks to fetch the policy makes no difference. -/
theorem Warned.of_fetched {queued : Policy} {rest : Transcript world} {error : PassError}
    (isFetched : queued.Fetched space policy t rest)
    (warned : setting.Warned cache policy rest error) : setting.Warned cache policy t error := by
  obtain ⟨_, now, reply, rfl, _⟩ := isFetched
  refine ⟨fun message announced => ?_, fun unannounced => ?_⟩
  · obtain ⟨later, isRead, warns, sent⟩ := warned.warns message announced
    refine ⟨later, List.mem_cons_of_mem _ (List.mem_cons_of_mem _ isRead), warns, ?_⟩
    exact sent.imp_left fun ⟨reply, member⟩ =>
      ⟨reply, List.mem_cons_of_mem _ (List.mem_cons_of_mem _ member)⟩
  · exact List.forall_mem_cons.2
      ⟨Request.not_warnsOf policy_ne_event, warned.quiet unannounced⟩

/-- Dealing with a policy that is there to stay warns of what is to be warned of. -/
theorem Applies.warned (looks : setting.LooksPastEvents) (filed : cache.Filed)
    {applied : Except SyncError Action} (applies : setting.Applies cache space policy t applied)
    {error : PassError} (ends : passResult applied = .error error) :
    setting.Warned cache policy t error := by
  cases applies with
  | @failed bringing writing telling failure written brings writes tells =>
    cases ends
    have announced := brings.warning?_eq
    refine ⟨fun message isIt => ?_, fun unannounced => ?_⟩
    · cases announced.symm.trans isIt
      refine tells.warns filed fun step member => ?_
      exact List.mem_append_right _ (List.mem_append_right _ member)
    · cases announced.symm.trans unannounced
  | @synced bringing telling writing operation written brings tells writes =>
    have tellsQuiet : ∀ e ∈ Transcript.sent telling, ¬ e.request.WarnsOf policy := by
      rcases tells with rfl | tells
      · exact List.forall_mem_nil _
      · exact tells.quiet filed
    have writesQuiet : ∀ e ∈ Transcript.sent writing, ¬ e.request.WarnsOf policy :=
      quiet_of_asks (updateStatus_pastEvents _) writes
    cases written with
    | ok => cases ends
    | error fault =>
      cases ends
      refine .of_quiet rfl ?_
      rw [Transcript.sent_append, Transcript.sent_append]
      exact List.forall_mem_append.2
        ⟨brings.quiet looks, List.forall_mem_append.2 ⟨tellsQuiet, writesQuiet⟩⟩

/-- Dealing with a policy that is not there to stay warns of nothing, and no warning tells of its
failures. -/
theorem warned_of_gone (gone : ¬ policy.Stays) {after : Ledger}
    {finalized : Except FinalizerError Action}
    (goes : ((setting.finalize space policy).run ledger).Goes t (finalized, after))
    {error : PassError} (ends : finalized.mapError .finalizer = .error error) :
    setting.Warned cache policy t error := by
  have bounded : ((setting.finalize space policy).run ledger).Bounded
      (fun question => WorldQuestion.isAboutEvents question = false) _ :=
    finalize_gone gone (fun _ => firewall_ne_event) fun _ _ => policy_ne_event
  refine .of_quiet ?_ (quiet_of_asks bounded.asks goes)
  obtain ⟨notApplied, -⟩ := bounded.of_goes goes
  cases finalized with
  | ok action => cases ends
  | error failure =>
    cases ends
    cases failure with
    | applyFailed failure => exact absurd rfl (notApplied failure)
    | cleanupFailed | addFailed | removeFailed | unnamedObject => rfl

/-- A failed pass over a policy that it has fetched warns of the failure if it could not bring the
firewall configuration up to date, and of no other failure. -/
theorem pass_warns (setting : Setting)
    (source : setting.lookUp = PeerFirewall.lookUp ∨
      ∃ info : ClusterInfo, setting.lookUp = info.read)
    (queued fetched : Policy) (space : String) (ledger after : Ledger)
    (reachable : ledger.Reachable) (t rest : Transcript world) (error : PassError)
    (goes : ((setting.pass queued).run ledger).Goes t (.error error, after))
    (isFetched : queued.Fetched space fetched t rest) :
    setting.Warned ledger.events fetched t error := by
  rcases pass_goes goes with unfetched | ⟨_, _, _, finalized, isFetchedToo, finalizes, ends⟩
  · exact absurd isFetched (unfetched.unfetched space fetched rest)
  obtain ⟨rfl, rfl, rfl⟩ := isFetched.unique isFetchedToo
  refine .of_fetched isFetched ?_
  by_cases stays : fetched.Stays
  · obtain ⟨applied, applies, rfl⟩ := finalize_goes stays finalizes
    exact applies.warned (surveys_of_source source).looksPastEvents reachable.filed ends.symm
  · exact warned_of_gone stays finalizes ends.symm

/-! ### A failure of each sort -/

/-- A pass over a policy of that name that is fetched as it is fails as dealing with it does. -/
theorem served_fails {σ : Type} {policy : Policy} {failure : FinalizerError}
    (named : policy.metadata.displayName = "rules")
    (home : policy.metadata.namespace = some "liqo-tenant-c")
    (reads : (Store.reply policy.encode).read Policy.decode = .ok policy)
    (respond : (question : world.Question) → σ → world.Answer question × σ) (s : σ)
    (fails : (((served.finalize "liqo-tenant-c" policy).run .fresh).run respond s).1.1 =
      .error failure) :
    ∃ t after, ((served.pass policy).run .fresh).Goes t (.error (.finalizer failure), after) ∧
      policy.Fetched "liqo-tenant-c" policy t
        (((served.finalize "liqo-tenant-c" policy).run .fresh).transcript respond s) := by
  obtain ⟨t, result, after, goes, isFetched⟩ := served_goes named home reads respond s
  rcases pass_goes goes with unfetched | ⟨_, _, _, _, isFetchedToo, finalizes, rfl⟩
  · exact absurd isFetched (unfetched.unfetched _ _ _)
  obtain ⟨rfl, rfl, rfl⟩ := isFetched.unique isFetchedToo
  have ends := congrArg Prod.fst (finalizes.ends_unique (Program.goes_run respond _ s))
  rw [fails] at ends
  cases ends
  exact ⟨t, after, goes, isFetched⟩

/-- A policy with a rule about a group that is not enabled. -/
def overreaching : Policy :=
  { marked "rules" "liqo-tenant-c" with
    spec := ⟨[⟨.allow, some (.ofGroup .offloaded), none⟩]⟩ }

/-- A pass over a policy whose rules do not compile warns of that. -/
theorem pass_warns_overreaching :
    ∃ t, served.Warns .empty overreaching
      "Failed to sync FirewallConfiguration: unknown resource group offloaded" t := by
  have reads : (Store.reply overreaching.encode).read Policy.decode = .ok overreaching := by
    decide +kernel
  have fails : (((served.finalize "liqo-tenant-c" overreaching).run .fresh).run
      (answers overreaching) ()).1.1 =
        .error (.applyFailed (.compile (.unknownGroup .offloaded))) := by
    decide +kernel
  obtain ⟨t, after, goes, isFetched⟩ := served_fails rfl rfl reads (answers overreaching) () fails
  exact ⟨t, (pass_warns served (.inr ⟨.standard, rfl⟩) overreaching overreaching "liqo-tenant-c"
    .fresh after .fresh t _ _ goes isFetched).warns _ (by decide +kernel)⟩

/-- Answers to a pass: the policy is as it is, and nothing can be deleted. -/
def undeletingAnswers (question : world.Question) (s : Unit) : world.Answer question × Unit :=
  match question with
  | .send request =>
    if request.method = .delete then (Store.refusal 500 "InternalError", s)
    else clingingAnswers (.send request) s
  | .clock => clingingAnswers .clock s
  | .look query => clingingAnswers (.look query) s

/-- It is not so that every failed pass warns of the failure: one that could not delete the firewall
configuration of a policy does not. -/
theorem pass_silent_undeleted :
    ¬ ∀ (setting : Setting), (setting.lookUp = PeerFirewall.lookUp ∨
        ∃ info : ClusterInfo, setting.lookUp = info.read) →
      ∀ (queued fetched : Policy) (space : String) (ledger after : Ledger), ledger.Reachable →
      ∀ (t rest : Transcript world) (error : PassError),
      ((setting.pass queued).run ledger).Goes t (.error error, after) →
      queued.Fetched space fetched t rest →
      ∃ message, setting.Warns ledger.events fetched message t := by
  intro always
  have reads : (Store.reply leavingPolicy.encode).read Policy.decode = .ok leavingPolicy := by
    decide +kernel
  have fails : (((served.finalize "liqo-tenant-c" leavingPolicy).run .fresh).run
      undeletingAnswers ()).1.1 = .error (.cleanupFailed (.api
        (.refused ⟨"Failure", "InternalError", "InternalError", 500⟩))) := by
    decide +kernel
  obtain ⟨t, after, goes, isFetched⟩ := served_fails rfl rfl reads undeletingAnswers () fails
  obtain ⟨message, now, _, warns, ⟨reply, sent⟩ | ⟨fault, noAddress⟩⟩ := always served
    (.inr ⟨.standard, rfl⟩) leavingPolicy leavingPolicy "liqo-tenant-c" .fresh after .fresh t _ _
    goes isFetched
  · have noEvents : (Transcript.sent (((served.finalize "liqo-tenant-c" leavingPolicy).run
        .fresh).transcript undeletingAnswers ())).any (·.request.endpoint.concerns .event) =
          false := by
      decide +kernel
    have quiet : ∀ e ∈ Transcript.sent t, e.request.endpoint.concerns .event = false := by
      obtain ⟨_, _, _, rfl, _⟩ := isFetched
      exact List.forall_mem_cons.2 ⟨policy_ne_event, fun e member =>
        eq_false_of_ne_true (List.any_eq_false.1 noEvents e member)⟩
    cases (quiet _ (Transcript.mem_sent_of_mem sent)).symm.trans warns.isEvent
  · rw [announcement_fresh] at noAddress
    have fits : Uri.Fits (Endpoint.collection ⟨.event, some "liqo-tenant-c"⟩).path 100 := by
      decide +kernel
    obtain ⟨uri, address⟩ : (ClusterEvent.first served.instance
        (.ofMetadata .policy leavingPolicy.metadata) (.failed message) now).request.IsSendable :=
      Request.isSendable fits (by decide)
    cases noAddress.symm.trans address

end Setting

end PeerFirewall
