import PeerFirewall.Proofs.Reconcile.Attempts
import PeerFirewall.Proofs.Reconcile.Visibility

/-!
# What a pass counts

A pass counts what became of the stored firewall configuration, and that accounts for what it has
sent (`Setting.pass_accounts`). It has created or replaced the configuration once, or not at all,
however many attempts came too late (`Firewall.upsertWithin_accounts`); it has left it as it is just
where it found it as it should be; and it has told of a change by one event, and of nothing else,
unless that event makes no address (`Setting.Accounted`).
-/
namespace PeerFirewall

/-! ### Writes -/

/-- Whether a request did an operation on a firewall configuration, by the reply. -/
def Sent.wrote (operation : WriteOperation) (e : Sent) : Bool :=
  operation.method? = some e.request.method && e.request.endpoint.concerns .firewall &&
    (e.reply.read Firewall.decode).toBool

/-- A request that did an operation stored a firewall configuration. -/
theorem Sent.storedFirewall_of_wrote {operation : WriteOperation} {e : Sent}
    (wrote : e.wrote operation) : e.StoredFirewall := by
  simp only [Sent.wrote, Bool.and_eq_true, decide_eq_true_eq] at wrote
  obtain ⟨⟨method, concerns⟩, accepted⟩ := wrote
  have writes : e.request.method = .post ∨ e.request.method = .put := by
    cases operation with
    | created => exact .inl (Option.some.inj method).symm
    | updated => exact .inr (Option.some.inj method).symm
    | unchanged => cases method
  refine ⟨decide_eq_true ⟨writes, concerns⟩, ?_⟩
  cases reads : e.reply.read Firewall.decode with
  | error error =>
    rw [reads] at accepted
    cases accepted
  | ok stored => exact ⟨stored, rfl⟩

/-- Whether requests changed the stored configuration once, if that is what became of it, and never
otherwise. -/
def Wrote (made : List Sent) (done : Option WriteOperation) : Prop :=
  ∀ operation, made.countP (·.wrote operation) =
    if operation.isChange ∧ done = some operation then 1 else 0

namespace Wrote

variable {first later made : List Sent} {done : Option WriteOperation}

/-- Requests that stored nothing changed nothing. -/
theorem nothing (unwritten : ∀ e ∈ made, ¬ e.StoredFirewall) : Wrote made none := by
  intro operation
  rw [if_neg (by simp)]
  exact List.countP_eq_zero.2 fun e member wrote =>
    unwritten e member (Sent.storedFirewall_of_wrote wrote)

/-- Requests before that stored nothing make no difference. -/
theorem append_left (unwritten : ∀ e ∈ first, ¬ e.StoredFirewall) (wrote : Wrote later done) :
    Wrote (first ++ later) done := by
  intro operation
  rw [List.countP_append, nothing unwritten operation, wrote operation, if_neg (by simp),
    Nat.zero_add]

/-- Requests after that stored nothing make no difference. -/
theorem append_right (wrote : Wrote first done) (unwritten : ∀ e ∈ later, ¬ e.StoredFirewall) :
    Wrote (first ++ later) done := by
  intro operation
  rw [List.countP_append, nothing unwritten operation, wrote operation,
    if_neg (c := _ ∧ none = _) (by simp), Nat.add_zero]

end Wrote

namespace Firewall

variable {space : String} {desired : Firewall} {first later : List Sent}
  {done : Option WriteOperation} {operation : WriteOperation} {t : Transcript world}

/-- Whether what became of the stored configuration accounts for requests: it was changed once, if
it was changed, and found as it should be just where it was left as it is. -/
structure Accounts (desired : Firewall) (made : List Sent) (done : Option WriteOperation) :
    Prop where
  writes : Wrote made done
  settles : done = some .unchanged ↔ ∃ e ∈ made, e.FoundMatching desired

/-- Requests in vain before make no difference. -/
theorem Accounts.append_left (vain : InVain desired first)
    (accounts : Accounts desired later done) : Accounts desired (first ++ later) done where
  writes := accounts.writes.append_left fun e member => (vain e member).1
  settles := by
    rw [accounts.settles]
    constructor
    · rintro ⟨e, member, found⟩
      exact ⟨e, List.mem_append_right _ member, found⟩
    · rintro ⟨e, member, found⟩
      rcases List.mem_append.1 member with early | late
      · exact absurd found (vain e early).2
      · exact ⟨e, late, found⟩

/-- A write that succeeds changes the stored configuration. -/
theorem Accounts.write {write : Sent} (method : operation.method? = some write.request.method)
    (concerns : write.request.endpoint.concerns .firewall)
    (accepted : (write.reply.read Firewall.decode).toBool) :
    Accounts desired [write] (some operation) where
  writes other := by
    rw [List.countP_singleton]
    simp only [Sent.wrote, ← method, concerns, accepted, Bool.and_true]
    revert method
    cases operation <;> cases other <;> simp [WriteOperation.method?, WriteOperation.isChange]
  settles := by
    constructor
    · rintro ⟨⟩
      cases method
    · rintro ⟨e, member, isRead, _⟩
      obtain rfl := List.mem_singleton.1 member
      have isGet : e.request.method = .get := (of_decide_eq_true isRead).1
      rw [isGet] at method
      cases operation <;> cases method

/-- A reading that finds the configuration as it should be leaves it as it is. -/
theorem read_accounts {name : String} {current : Firewall}
    (goes : (ApiCall.get? (some space) name : ApiCall (Option Firewall)).run.Goes t
      (.ok (some current))) (merges : current.merge desired = none) :
    Accounts desired (Transcript.sent t) (some .unchanged) := by
  rcases ApiCall.goes_get? goes with ⟨_, _, found⟩ | ⟨reply, rfl, found⟩
  · cases found
  have reads := ApiCall.eq_of_absenceIsNone found.symm
  constructor
  · intro operation
    cases operation <;> rfl
  · exact ⟨fun _ => ⟨_, List.mem_cons_self, readsFirewall_readRequest space name, current, reads,
      merges⟩, fun _ => rfl⟩

/-- An attempt that ends with an operation is accounted for by it. -/
theorem attempt_accounts
    (goes : (attempt space desired.metadata.displayName desired).run.Goes t
      (.ok (some operation))) :
    Accounts desired (Transcript.sent t) (some operation) := by
  generalize isEnd : Except.ok (some operation) = ended at goes
  cases goes_attempt_iff.1 goes with
  | unread reads => cases isEnd
  | settled reads merges =>
    cases isEnd
    exact read_accounts reads merges
  | created reads creates ends =>
    obtain ⟨rfl, saved, rfl⟩ := attemptEnd_eq_some_iff.1 (ends.trans isEnd.symm)
    rw [Transcript.sent_append]
    refine .append_left ((read_goes_absent reads).failed rfl) ?_
    rcases ApiCall.goes_send creates with ⟨_, _, _, failed⟩ | ⟨reply, rfl, accepted⟩
    · cases failed
    · exact .write rfl rfl (congrArg Except.toBool accepted.symm)
  | replaced reads merges replaces ends =>
    obtain ⟨rfl, saved, rfl⟩ := attemptEnd_eq_some_iff.1 (ends.trans isEnd.symm)
    rw [Transcript.sent_append]
    refine .append_left ((read_goes_differing reads merges).failed rfl) ?_
    rcases ApiCall.goes_byName_send replaces with ⟨_, _, failed⟩ | ⟨reply, rfl, accepted⟩
    · cases failed
    · exact .write rfl rfl (congrArg Except.toBool accepted.symm)

/-- Attempts that end with an operation are accounted for by it: those before the last one were in
vain. -/
theorem upsertWithin_accounts {attempts : Nat}
    (goes : (upsertWithin space desired.metadata.displayName desired attempts).run.Goes t
      (.ok operation)) :
    Accounts desired (Transcript.sent t) (some operation) := by
  -- The attempts that came too late stand before the last one, each of them in vain.
  induction attempts generalizing t with
  | zero =>
    obtain ⟨-, ended⟩ := goes
    cases ended
  | succ attempts ih =>
    rcases goes_upsertWithin_succ.1 goes with tries | ⟨first, later, rfl, tries, goes⟩
    · exact attempt_accounts tries
    · have vain : InVain desired (Transcript.sent first) := (attempt_goes tries).failed rfl
      rw [Transcript.sent_append]
      exact (ih goes).append_left vain

end Firewall

/-! ### Telling of writes -/

/-- Whether a request publishes an event that tells of a write. -/
def Request.tellsOfWrite (request : Request) : Bool :=
  request.endpoint.concerns .event &&
    request.body.bind (·.get? "type") = some (.str "Normal") &&
    request.body.bind (·.get? "reason") = some (.str "Synced")

/-- How many of the requests tell of a write. -/
def tellings (made : List Sent) : Nat := made.countP (·.request.tellsOfWrite)

/-- Requests one after the other tell of what those of both parts tell. -/
theorem tellings_append (first later : List Sent) :
    tellings (first ++ later) = tellings first + tellings later := List.countP_append

/-- Requests about other things tell of no write. -/
theorem tellings_eq_zero {made : List Sent}
    (noEvents : ∀ e ∈ made, e.request.endpoint.concerns .event = false) : tellings made = 0 := by
  refine List.countP_eq_zero.2 fun e member tells => ?_
  simp only [Request.tellsOfWrite, noEvents e member, Bool.false_and, Bool.false_eq_true] at tells

namespace ClusterEvent

variable {event : ClusterEvent} {policy : Policy}

/-- An event tells of a write if it is of the kind that does. -/
theorem tellsOfWrite_request (event : ClusterEvent) : event.request.tellsOfWrite =
    (event.content.type.name = "Normal" && event.content.reason = "Synced") := by
  obtain ⟨isType, isReason, _⟩ := event.get?_encode
  have isEvent : event.request.endpoint.concerns .event := by
    rw [Endpoint.concerns, event.objects?_request]
    exact decide_eq_true (show event.collection.kind = .event from rfl)
  simp only [Request.tellsOfWrite, isEvent, body_request, Option.bind_some, isType, isReason,
    Option.some.injEq, Json.str.injEq, Bool.true_and]

/-- An event that is remembered as a success tells of a write. -/
theorem tellsOfWrite_of_synced {operation : WriteOperation}
    (belongs : event.key = Stepwise.eventKey policy (.synced operation)) :
    event.request.tellsOfWrite = true := by
  have type : event.content.type = .normal := congrArg EventKey.type belongs
  have reason : event.content.reason = "Synced" := congrArg EventKey.reason belongs
  rw [tellsOfWrite_request, type, reason]
  decide

/-- An event that is remembered as a failure tells of no write. -/
theorem tellsOfWrite_of_failed {message : String}
    (belongs : event.key = Stepwise.eventKey policy (.failed message)) :
    event.request.tellsOfWrite = false := by
  have type : event.content.type = .warning := congrArg EventKey.type belongs
  have reason : event.content.reason = "ReconcileError" := congrArg EventKey.reason belongs
  rw [tellsOfWrite_request, type, reason]
  decide

end ClusterEvent

/-! ### What is not accounted for -/

/-- Whether a request neither reads nor stores a firewall configuration, and is not about events. -/
structure Request.IsIdle (request : Request) : Prop where
  noEvent : request.endpoint.concerns .event = false
  noStore : request.storesFirewall = false
  noRead : request.readsFirewall = false

/-- Whether a question asks for nothing that is accounted for. -/
def WorldQuestion.IsIdle : WorldQuestion → Prop
  | send request => request.IsIdle
  | clock | look _ => True

/-- A request that is about other things than events and firewall configurations is idle. -/
theorem Request.isIdle_of_other {request : Request}
    (noEvent : request.endpoint.concerns .event = false)
    (noFirewall : request.endpoint.concerns .firewall = false) : request.IsIdle where
  noEvent := noEvent
  noStore := by simp [storesFirewall, noFirewall]
  noRead := by simp [readsFirewall, noFirewall]

/-- What is idle stores no firewall configuration. -/
theorem Request.IsIdle.not_stored {e : Sent} (idle : e.request.IsIdle) : ¬ e.StoredFirewall := by
  intro stored
  cases idle.noStore.symm.trans stored.1

/-- What is idle tells of no write. -/
theorem tellings_of_idle {made : List Sent} (idle : ∀ e ∈ made, e.request.IsIdle) :
    tellings made = 0 :=
  tellings_eq_zero fun e member => (idle e member).noEvent

/-- The request that reads a policy is idle. -/
theorem Request.isIdle_readRequest (space name : String) :
    (ApiCall.readRequest Policy space name).IsIdle :=
  isIdle_of_other Setting.policy_ne_event (decide_eq_false (show Kind.policy ≠ .firewall by decide))

/-- The request that deletes a firewall configuration is idle. -/
theorem Firewall.isIdle_deletionRequest (space name : String) :
    (deletionRequest space name).IsIdle where
  noEvent := Setting.firewall_ne_event
  noStore := by simp [Request.storesFirewall, deletionRequest]
  noRead := by simp [Request.readsFirewall, deletionRequest]

/-! ### Announcing -/

namespace Setting

variable {setting : Setting} {space : String} {policy queued : Policy} {cache : EventCache}
  {ledger after : Ledger} {t rest : Transcript world} {operation : WriteOperation}
  {done : Option WriteOperation}

/-- To announce a write is to tell of it once, if the event makes an address. -/
theorem Announces.tells (filed : cache.Filed)
    (announces : setting.Announces cache policy (.synced operation) t) :
    tellings (Transcript.sent t) = 1 ∨ tellings (Transcript.sent t) = 0 ∧
      ∃ now fault, WorldStep.clock now ∈ t ∧
        (setting.announcement cache policy (.synced operation) now).request.uri? =
          .error fault := by
  cases announces with
  | sent now reply =>
    have tells : (setting.announcement cache policy (.synced operation)
        now).request.tellsOfWrite = true :=
      ClusterEvent.tellsOfWrite_of_synced (key_announcement filed _ now)
    exact .inl (List.countP_singleton.trans (if_pos tells))
  | unaddressed now noAddress => exact .inr ⟨rfl, now, _, List.mem_cons_self, noAddress⟩

/-- To announce a failure is to tell of no write. -/
theorem Announces.tellings_eq_zero {message : String} (filed : cache.Filed)
    (announces : setting.Announces cache policy (.failed message) t) :
    tellings (Transcript.sent t) = 0 := by
  cases announces with
  | sent now reply =>
    have quiet : (setting.announcement cache policy (.failed message) now).request.tellsOfWrite =
        false :=
      ClusterEvent.tellsOfWrite_of_failed (key_announcement filed _ now)
    exact List.countP_singleton.trans (if_neg (ne_true_of_eq_false quiet))
  | unaddressed now noAddress => rfl

/-- Announcing something counts nothing. -/
theorem announce_metrics {content : EventNote}
    (goes : ((setting.announce policy content).run ledger).Goes t ((), after)) :
    after.metrics = ledger.metrics := by
  rw [announce_eq] at goes
  obtain ⟨_, _, _, _, _, goes⟩ := Program.goes_bind.1 goes
  obtain ⟨_, _, result, _, _, _, same⟩ := Program.goes_bind.1 goes
  cases same
  cases result <;> rfl

/-! ### One pass -/

/-- Whether a pass found the firewall configuration as what the rules of the policy that it fetched
compile to. -/
def FindsSettled (setting : Setting) (queued : Policy) (t : Transcript world) : Prop :=
  ∃ space fetched rest desired, queued.Fetched space fetched t rest ∧
    setting.Desires space fetched rest desired ∧
    ∃ e ∈ Transcript.sent rest, e.FoundMatching desired

/-- Whether a pass could not tell of a write: given the events that were remembered, the one that
tells of it makes no address. -/
def CannotTell (setting : Setting) (cache : EventCache) (queued : Policy)
    (operation : WriteOperation) (t : Transcript world) : Prop :=
  ∃ space fetched rest now fault, queued.Fetched space fetched t rest ∧
    WorldStep.clock now ∈ rest ∧
    (setting.announcement cache fetched (.synced operation) now).request.uri? = .error fault

/-- Whether what became of the stored configuration in a pass over a policy accounts for what the
pass has sent, given the events that were remembered. -/
structure Accounted (setting : Setting) (cache : EventCache) (queued : Policy)
    (t : Transcript world) (done : Option WriteOperation) : Prop where
  /-- A configuration was created or replaced once, if that is what became of it, and never
  otherwise. -/
  writes : Wrote (Transcript.sent t) done
  /-- It was left as it is just where it was found as it should be. -/
  settles : done = some .unchanged ↔ setting.FindsSettled queued t
  /-- A change is told of once, unless the event that tells of it makes no address. -/
  tells : ∀ operation, done = some operation → operation.isChange →
    tellings (Transcript.sent t) = 1 ∨
      tellings (Transcript.sent t) = 0 ∧ setting.CannotTell cache queued operation t
  /-- Nothing else is told of as a write. -/
  quiet : (∀ operation, done = some operation → operation.isChange = false) →
    tellings (Transcript.sent t) = 0

/-- A pass that stores nothing, finds nothing as it should be and tells of no write. -/
theorem Accounted.nothing (unwritten : ∀ e ∈ Transcript.sent t, ¬ e.StoredFirewall)
    (unsettled : ¬ setting.FindsSettled queued t) (untold : tellings (Transcript.sent t) = 0) :
    setting.Accounted cache queued t none where
  writes := .nothing unwritten
  settles := ⟨nofun, fun settled => absurd settled unsettled⟩
  tells := nofun
  quiet _ := untold

/-- What a pass found settled is settled by the policy that it fetched. -/
theorem findsSettled_iff (isFetched : queued.Fetched space policy t rest) :
    setting.FindsSettled queued t ↔ ∃ desired, setting.Desires space policy rest desired ∧
      ∃ e ∈ Transcript.sent rest, e.FoundMatching desired := by
  constructor
  · rintro ⟨_, _, _, desired, isFetchedToo, desires, found⟩
    obtain ⟨rfl, rfl, rfl⟩ := isFetched.unique isFetchedToo
    exact ⟨desired, desires, found⟩
  · rintro ⟨desired, desires, found⟩
    exact ⟨_, _, _, desired, isFetched, desires, found⟩

/-- A pass that has fetched a policy has sent the request for it, and then the rest. -/
theorem sent_of_fetched (isFetched : queued.Fetched space policy t rest) :
    ∃ read : List Sent, Transcript.sent t = read ++ Transcript.sent rest ∧
      ∀ e ∈ read, e.request.IsIdle := by
  obtain ⟨_, now, reply, rfl, _⟩ := isFetched
  exact ⟨[⟨_, reply⟩], rfl, List.forall_mem_singleton.2 (Request.isIdle_readRequest ..)⟩

/-- A pass that deals with a policy, but stores nothing, finds nothing as it should be and tells of
no write. -/
theorem Accounted.nothing_of_fetched (isFetched : queued.Fetched space policy t rest)
    (unwritten : ∀ e ∈ Transcript.sent rest, ¬ e.StoredFirewall)
    (unmatched : ∀ desired, setting.Desires space policy rest desired →
      ∀ e ∈ Transcript.sent rest, ¬ e.FoundMatching desired)
    (untold : tellings (Transcript.sent rest) = 0) : setting.Accounted cache queued t none := by
  obtain ⟨read, sent, idle⟩ := sent_of_fetched isFetched
  refine .nothing ?_ ?_ ?_
  · rw [sent]
    exact List.forall_mem_append.2 ⟨fun e member => (idle e member).not_stored, unwritten⟩
  · rw [findsSettled_iff isFetched]
    rintro ⟨desired, desires, e, member, found⟩
    exact unmatched desired desires e member found
  · rw [sent, tellings_append, tellings_of_idle idle, untold]

/-- Bringing the firewall configuration up to date is accounted for by what became of it. -/
theorem Brings.accounts (looksAside : setting.LooksAside)
    (brings : setting.Brings space policy t (.ok operation)) :
    ∃ desired, setting.Desires space policy t desired ∧
      Firewall.Accounts desired (Transcript.sent t) (some operation) := by
  generalize same : Except.ok operation = brought at brings
  cases brings with
  | noPeer | uncompiled | unowned => cases same
  | @upserted clusterId spec desired compiling upserting written isPeer compiles built upserts =>
    cases written with
    | error error => cases same
    | ok other =>
      cases same
      have asks : (setting.compile clusterId policy).Asks WorldQuestion.IsAside :=
        asks_compile looksAside clusterId
      have vain : InVain desired (Transcript.sent compiling) := fun e member =>
        have aside : e.request.IsAside := Transcript.sent_of_asks asks compiles e member
        ⟨Sent.not_storedFirewall aside.noFirewall, Sent.not_foundMatching aside.noFirewall⟩
      refine ⟨desired, ⟨clusterId, spec, compiling, upserting, rfl, isPeer, compiles, built⟩, ?_⟩
      rw [Transcript.sent_append]
      exact (Firewall.upsertWithin_accounts upserts).append_left vain

/-- A pass that could not bring the firewall configuration up to date, and has then sent other
things, has nothing to account for if these tell of no write. -/
theorem Accounted.of_brings_error (looks : setting.Surveys) {bringing others : Transcript world}
    (isFetched : queued.Fetched space policy t (bringing ++ others)) {error : SyncError}
    (brings : setting.Brings space policy bringing (.error error))
    (noFirewall : ∀ e ∈ Transcript.sent others, e.request.endpoint.concerns .firewall = false)
    (quiet : tellings (Transcript.sent others) = 0) : setting.Accounted cache queued t none := by
  have brought := brings.brought looks.looksAside
  refine .nothing_of_fetched isFetched ?_ ?_ ?_
  · rw [Transcript.sent_append]
    exact List.forall_mem_append.2 ⟨brought.unwritten rfl, fun e member =>
      Sent.not_storedFirewall (noFirewall e member)⟩
  · intro desired desires
    rw [Transcript.sent_append]
    exact List.forall_mem_append.2 ⟨brought.unmatched rfl _ desired desires, fun e member =>
      Sent.not_foundMatching (noFirewall e member)⟩
  · rw [Transcript.sent_append, tellings_append,
      tellings_eq_zero (brings.noEvents looks.looksPastEvents), quiet]

/-- A pass that has brought the firewall configuration up to date, and has then sent other things,
is accounted for by what became of the configuration. -/
theorem Accounted.of_brings (looks : setting.Surveys) {bringing others : Transcript world}
    (isFetched : queued.Fetched space policy t (bringing ++ others))
    (brings : setting.Brings space policy bringing (.ok operation))
    (noFirewall : ∀ e ∈ Transcript.sent others, e.request.endpoint.concerns .firewall = false)
    (tells : operation.isChange → tellings (Transcript.sent others) = 1 ∨
      tellings (Transcript.sent others) = 0 ∧ setting.CannotTell cache queued operation t)
    (quiet : operation.isChange = false → tellings (Transcript.sent others) = 0) :
    setting.Accounted cache queued t (some operation) := by
  obtain ⟨desired, desires, accounts⟩ := brings.accounts looks.looksAside
  obtain ⟨read, sent, idle⟩ := sent_of_fetched isFetched
  have told : tellings (Transcript.sent t) = tellings (Transcript.sent others) := by
    rw [sent, Transcript.sent_append, tellings_append, tellings_append, tellings_of_idle idle,
      tellings_eq_zero (brings.noEvents looks.looksPastEvents), Nat.zero_add, Nat.zero_add]
  constructor
  case writes =>
    rw [sent, Transcript.sent_append]
    refine .append_left (fun e member => (idle e member).not_stored)
      (accounts.writes.append_right ?_)
    exact fun e member => Sent.not_storedFirewall (noFirewall e member)
  case settles =>
    rw [findsSettled_iff isFetched, accounts.settles]
    constructor
    · rintro ⟨e, member, found⟩
      refine ⟨desired, desires.append others, e, ?_, found⟩
      rw [Transcript.sent_append]
      exact List.mem_append_left _ member
    · rintro ⟨other, desiresToo, e, member, found⟩
      rw [(desires.append others).unique desiresToo]
      rw [Transcript.sent_append] at member
      rcases List.mem_append.1 member with early | late
      · exact ⟨e, early, found⟩
      · exact absurd found (Sent.not_foundMatching (noFirewall e late))
  case tells =>
    rintro _ ⟨⟩ isChange
    rw [told]
    exact tells isChange
  case quiet =>
    intro noChange
    rw [told]
    exact quiet (noChange operation rfl)

end Setting

/-- Counts what became of the stored configuration, if anything did. -/
def Metrics.counting (done : Option WriteOperation) (metrics : Metrics) : Metrics :=
  done.elim metrics fun operation => metrics.wrote operation

namespace Setting

variable {setting : Setting} {space : String} {policy queued : Policy} {cache : EventCache}
  {ledger after : Ledger} {t rest : Transcript world}

/-- Writing the status of a policy tells of no write. -/
theorem tellings_updateStatus {outcome : Outcome} {written : Except ApiError Unit}
    (writes : (policy.updateStatus space outcome).run.Goes t written) :
    tellings (Transcript.sent t) = 0 :=
  tellings_eq_zero (Transcript.sent_of_asks (updateStatus_pastEvents outcome) writes)

/-- Dealing with a policy that is there to stay is accounted for by what is counted. -/
theorem Deals.accounted (looks : setting.Surveys) (filed : ledger.events.Filed)
    (isFetched : queued.Fetched space policy t rest) {applied : Except SyncError Action}
    (deals : setting.Deals ledger space policy rest applied after) :
    ∃ done, setting.Accounted ledger.events queued t done ∧
      after.metrics = ledger.metrics.counting done := by
  cases deals with
  | @failed bringing writing telling error written _ brings writes tells =>
    have announces := announce_goes tells
    refine ⟨none, .of_brings_error looks isFetched brings ?_ ?_, announce_metrics tells⟩
    · rw [Transcript.sent_append]
      exact List.forall_mem_append.2 ⟨Policy.updateStatus_noFirewall writes,
        fun e member => (announces.isAside e member).noFirewall⟩
    · rw [Transcript.sent_append, tellings_append, tellings_updateStatus writes,
        announces.tellings_eq_zero filed]
  | @changed bringing telling writing operation written _ brings isChange tells writes =>
    have announces := announce_goes tells
    -- Counting the write leaves the events as they are.
    have announces : setting.Announces ledger.events policy (.synced operation) telling :=
      announces
    have told : tellings (Transcript.sent (telling ++ writing)) =
        tellings (Transcript.sent telling) := by
      rw [Transcript.sent_append, tellings_append, tellings_updateStatus writes, Nat.add_zero]
    refine ⟨some operation, .of_brings looks isFetched brings ?_ ?_ ?_, announce_metrics tells⟩
    · rw [Transcript.sent_append]
      exact List.forall_mem_append.2 ⟨fun e member => (announces.isAside e member).noFirewall,
        Policy.updateStatus_noFirewall writes⟩
    · intro _
      rw [told]
      refine (announces.tells filed).imp_right fun ⟨nothing, now, fault, isRead, noAddress⟩ => ?_
      refine ⟨nothing, space, policy, _, now, fault, isFetched, ?_, noAddress⟩
      exact List.mem_append_right _ (List.mem_append_left _ isRead)
    · intro noChange
      cases isChange.symm.trans noChange
  | @settled bringing writing operation written brings noChange writes =>
    refine ⟨some operation, .of_brings looks isFetched brings ?_ ?_ ?_, rfl⟩
    · exact Policy.updateStatus_noFirewall writes
    · intro isChange
      cases noChange.symm.trans isChange
    · intro _
      exact tellings_updateStatus writes

/-- What is idle stores nothing, finds nothing as it should be and tells of no write. -/
theorem Accounted.idle (idle : ∀ e ∈ Transcript.sent t, e.request.IsIdle) :
    setting.Accounted cache queued t none := by
  refine .nothing (fun e member => (idle e member).not_stored) ?_ (tellings_of_idle idle)
  rintro ⟨_, _, _, _, isFetched, _, e, member, found⟩
  obtain ⟨_, sent, _⟩ := sent_of_fetched isFetched
  have isIdle := idle e (sent ▸ List.mem_append_right _ member)
  cases isIdle.noRead.symm.trans found.1

/-- Dealing with a policy that is not there to stay counts nothing, and there is nothing to account
for. -/
theorem finalize_idles (gone : ¬ policy.Stays) (isFetched : queued.Fetched space policy t rest)
    {finalized : Except FinalizerError Action}
    (goes : ((setting.finalize space policy).run ledger).Goes rest (finalized, after)) :
    setting.Accounted cache queued t none ∧ after = ledger := by
  have bounded : ((setting.finalize space policy).run ledger).Bounded WorldQuestion.IsIdle _ :=
    finalize_gone gone (Firewall.isIdle_deletionRequest space) fun _ _ =>
      Request.isIdle_of_other policy_ne_event
        (decide_eq_false (show Kind.policy ≠ .firewall by decide))
  obtain ⟨read, sent, idle⟩ := sent_of_fetched isFetched
  refine ⟨.idle ?_, (bounded.of_goes goes).2⟩
  rw [sent]
  exact List.forall_mem_append.2 ⟨idle, Transcript.sent_of_asks bounded.asks goes⟩

/-- What a pass counts accounts for what it has sent. -/
theorem pass_accounts (looks : setting.Surveys) (filed : ledger.events.Filed)
    {result : Except PassError Action}
    (goes : ((setting.pass queued).run ledger).Goes t (result, after)) :
    ∃ done, setting.Accounted ledger.events queued t done ∧
      after.metrics = ledger.metrics.counting done := by
  rcases pass_course goes with
    ⟨unfetched, rfl⟩ | ⟨space, fetched, rest, finalized, isFetched, finalizes, _⟩
  · refine ⟨none, .idle fun e member => ?_, rfl⟩
    obtain ⟨space, isRead⟩ := unfetched.reads e member
    rw [isRead]
    exact Request.isIdle_readRequest ..
  · by_cases stays : fetched.Stays
    · obtain ⟨applied, deals, _⟩ := finalize_deals stays finalizes
      exact deals.accounted looks filed isFetched
    · obtain ⟨accounted, same⟩ := finalize_idles stays isFetched finalizes
      exact ⟨none, accounted, congrArg Ledger.metrics same⟩

end Setting

end PeerFirewall
