import PeerFirewall.Proofs.Readiness
import PeerFirewall.Proofs.Reconcile.Footprint
import PeerFirewall.Proofs.Resource.Policy

/-!
# The ready condition tells the truth

Whatever a pass is answered, it writes the status of the policy once at most. What it writes there
is about the policy as it was fetched: that it is in force only if the firewall configuration that
its rules compile to is in force by then, and that it is not only if nothing was written and nothing
was found as it should be (`Setting.pass_honest`). The proof follows the pass: how the configuration
is brought up to date (`Setting.Brings`), how that is counted and reported (`Setting.Deals`,
`Setting.Applies`), and how the policy came to be fetched (`Policy.Fetched`).
-/
namespace PeerFirewall

/-- The status that a request writes, if it writes one that can be read. -/
def Request.writtenStatus? (request : Request) : Option PolicyStatus :=
  (request.body.bind (·.get? "status")).bind fun value => (PolicyStatus.decode value).toOption

/-- The request that writes a status writes that status. -/
theorem Policy.writtenStatus?_statusRequest (policy : Policy) (space : String)
    (status : PolicyStatus) :
    (policy.statusRequest space status).writtenStatus? = some status := by
  have written : status.patch.get? "status" = some status.encode := rfl
  simp only [Request.writtenStatus?, statusRequest, Option.bind_some, written,
    status.readsBack.read]
  rfl

/-- What a failure to bring the firewall configuration up to date says on the status. -/
def SyncError.outcome : SyncError → Outcome
  | clusterId error => .clusterIdExtractionFailed error.message
  | error => .syncFailed error.message

/-- The message on the status ends with that of the error. -/
theorem SyncError.message_outcome (error : SyncError) :
    ∃ front, error.outcome.message = front ++ error.message := by
  cases error <;> exact ⟨_, rfl⟩

/-- A failure is not reported as success. -/
theorem SyncError.conditionStatus_outcome (error : SyncError) :
    error.outcome.conditionStatus = .false := by
  cases error <;> rfl

/-- Whether a policy is there to stay: it carries the mark of the controller and is not being
deleted. -/
structure Policy.Stays (policy : Policy) : Prop where
  marked : Finalizer.place? policy.metadata ≠ none
  kept : policy.metadata.deletionTimestamp = none

/-- Whether a pass over a queued policy has fetched the policy as it is, and what went on then. -/
def Policy.Fetched (queued : Policy) (space : String) (fetched : Policy)
    (t rest : Transcript world) : Prop :=
  queued.metadata.namespace = some space ∧ ∃ now reply,
    t = WorldStep.clock now ::
      WorldStep.sent (ApiCall.readRequest Policy space queued.metadata.displayName) reply :: rest ∧
    reply.read Policy.decode = .ok fetched

/-- A pass fetches one policy at most. -/
theorem Policy.Fetched.unique {queued fetched other : Policy} {space spaceToo : String}
    {t rest restToo : Transcript world} (isFetched : queued.Fetched space fetched t rest)
    (isFetchedToo : queued.Fetched spaceToo other t restToo) :
    space = spaceToo ∧ fetched = other ∧ rest = restToo := by
  obtain ⟨home, now, reply, rfl, reads⟩ := isFetched
  obtain ⟨homeToo, _, _, same, readsToo⟩ := isFetchedToo
  cases home.symm.trans homeToo
  cases same
  cases reads.symm.trans readsToo
  exact ⟨rfl, rfl, rfl⟩

namespace Setting

variable {setting : Setting} {space : String} {policy : Policy} {t : Transcript world}

/-! ### Bringing the firewall configuration up to date -/

/-- Whether looking at the state of the cluster is about other things than firewall configurations
and changes no status. -/
def LooksAside (setting : Setting) : Prop :=
  ∀ query, (setting.lookUp query).Asks WorldQuestion.IsAside

/-- Looking through the API server is aside. -/
theorem looksAside_read (isRead : setting.lookUp = setting.info.read) : setting.LooksAside := by
  intro query
  rw [isRead]
  exact (setting.info.read_looks query).imp fun _ => WorldQuestion.IsLook.isAside

/-- What tells of the state of the cluster is aside. -/
theorem Surveys.looksAside (surveys : setting.Surveys) : setting.LooksAside := fun query =>
  (surveys query).imp fun _ survey => survey.isLook.isAside

/-- Whether a transcript begins with compiling the rules of a policy to what is desired for it. -/
def Desires (setting : Setting) (space : String) (policy : Policy) (t : Transcript world)
    (desired : Firewall) : Prop :=
  ∃ clusterId spec compiling rest, t = compiling ++ rest ∧
    setting.info.tenants.clusterId space = .ok clusterId ∧
    (setting.compile clusterId policy).Goes compiling (.ok spec) ∧
    policy.desiredFirewall? clusterId spec = some desired

/-- What is desired does not depend on what happens after compiling. -/
theorem Desires.append {desired : Firewall} (desires : setting.Desires space policy t desired)
    (more : Transcript world) : setting.Desires space policy (t ++ more) desired := by
  obtain ⟨clusterId, spec, compiling, rest, rfl, isPeer, compiles, built⟩ := desires
  exact ⟨clusterId, spec, compiling, rest ++ more, List.append_assoc .., isPeer, compiles, built⟩

/-- One thing is desired at most. -/
theorem Desires.unique {desired other : Firewall}
    (desires : setting.Desires space policy t desired)
    (desiresToo : setting.Desires space policy t other) : desired = other := by
  obtain ⟨clusterId, spec, compiling, rest, rfl, isPeer, compiles, built⟩ := desires
  obtain ⟨_, _, _, _, same, isPeerToo, compilesToo, builtToo⟩ := desiresToo
  cases isPeer.symm.trans isPeerToo
  obtain ⟨_, sameSpec⟩ := compiles.unique compilesToo same
  cases sameSpec
  exact Option.some.inj (built.symm.trans builtToo)

/-- How a pass brings the firewall configuration up to date, and what comes of it. -/
inductive Brings (setting : Setting) (space : String) (policy : Policy) :
    Transcript world → Except SyncError WriteOperation → Prop where
  /-- The namespace names no peer. -/
  | noPeer {error : ClusterIdError}
      (noPeer : setting.info.tenants.clusterId space = .error error) :
      Brings setting space policy [] (.error (.clusterId error))
  /-- The rules do not compile. -/
  | uncompiled {clusterId : String} {error : CompileError} {t : Transcript world}
      (isPeer : setting.info.tenants.clusterId space = .ok clusterId)
      (compiles : (setting.compile clusterId policy).Goes t (.error error)) :
      Brings setting space policy t (.error (.compile error))
  /-- The policy cannot own a configuration. -/
  | unowned {clusterId : String} {spec : FirewallSpec} {error : UpsertError}
      {t : Transcript world} (isPeer : setting.info.tenants.clusterId space = .ok clusterId)
      (compiles : (setting.compile clusterId policy).Goes t (.ok spec))
      (ownerless : policy.desiredFirewall clusterId spec = .error error) :
      Brings setting space policy t (.error (.upsert error))
  /-- What is desired is written. -/
  | upserted {clusterId : String} {spec : FirewallSpec} {desired : Firewall}
      {compiling upserting : Transcript world} {result : Except UpsertError WriteOperation}
      (isPeer : setting.info.tenants.clusterId space = .ok clusterId)
      (compiles : (setting.compile clusterId policy).Goes compiling (.ok spec))
      (built : policy.desiredFirewall? clusterId spec = some desired)
      (upserts : (desired.upsert space).run.Goes upserting result) :
      Brings setting space policy (compiling ++ upserting) (result.mapError .upsert)

/-- Bringing the firewall configuration of a peer up to date. -/
theorem sync_goes {clusterId : String}
    (isPeer : setting.info.tenants.clusterId space = .ok clusterId)
    {result : Except SyncError WriteOperation}
    (goes : (setting.sync space clusterId policy).Goes t result) :
    setting.Brings space policy t result := by
  unfold sync at goes
  rw [Program.bind_eq_bind, Program.goes_bind] at goes
  obtain ⟨compiling, rest, compiled, rfl, compiles, goes⟩ := goes
  cases compiled with
  | error error =>
    obtain ⟨rfl, rfl⟩ := goes
    rw [List.append_nil]
    exact .uncompiled isPeer compiles
  | ok spec =>
    simp only [Policy.desiredFirewall] at goes
    cases built : policy.desiredFirewall? clusterId spec with
    | none =>
      rw [built] at goes
      obtain ⟨rfl, rfl⟩ := goes
      rw [List.append_nil]
      exact .unowned isPeer compiles (by rw [Policy.desiredFirewall, built])
    | some desired =>
      simp only [built, Program.bind_eq_bind, Program.goes_bind] at goes
      obtain ⟨upserting, _, result, rfl, upserts, rfl, rfl⟩ := goes
      rw [List.append_nil]
      exact .upserted isPeer compiles built upserts

/-- What has come about when a pass has brought the firewall configuration up to date, or has
failed to. -/
structure Brought (setting : Setting) (space : String) (policy : Policy) (t : Transcript world)
    (result : Except SyncError WriteOperation) : Prop where
  noStatus : ∀ e ∈ Transcript.sent t, e.request.isStatusPatch = false
  inForce : result.toBool → ∃ desired, setting.Desires space policy t desired ∧
    InForce space desired (Transcript.sent t)
  unwritten : result.toBool = false → ∀ e ∈ Transcript.sent t, ¬ e.StoredFirewall
  unmatched : result.toBool = false → ∀ more desired,
    setting.Desires space policy (t ++ more) desired →
      ∀ e ∈ Transcript.sent t, ¬ e.FoundMatching desired

/-- A failure before anything is written brings nothing about. -/
theorem Brought.of_aside {error : SyncError} (aside : ∀ e ∈ Transcript.sent t, e.request.IsAside) :
    setting.Brought space policy t (.error error) where
  noStatus e member := (aside e member).noStatus
  inForce := nofun
  unwritten _ e member := Sent.not_storedFirewall (aside e member).noFirewall
  unmatched _ _ _ _ e member := Sent.not_foundMatching (aside e member).noFirewall

/-- Bringing the firewall configuration up to date puts what is desired in force, or it fails and
stores nothing and finds nothing as it should be. -/
theorem Brings.brought (looksAside : setting.LooksAside)
    {result : Except SyncError WriteOperation}
    (brings : setting.Brings space policy t result) : setting.Brought space policy t result := by
  have compilesAside {clusterId : String} {t : Transcript world}
      {compiled : Except CompileError FirewallSpec}
      (compiles : (setting.compile clusterId policy).Goes t compiled) :
      ∀ e ∈ Transcript.sent t, e.request.IsAside := by
    have each (query : Query) : (setting.lookUp query).Asks WorldQuestion.IsAside :=
      looksAside query
    exact Transcript.sent_of_asks (Program.asks_answeredBy each _) compiles
  cases brings with
  | noPeer noPeer => exact .of_aside (List.forall_mem_nil _)
  | uncompiled isPeer compiles => exact .of_aside (compilesAside compiles)
  | unowned isPeer compiles => exact .of_aside (compilesAside compiles)
  | @upserted clusterId spec desired compiling upserting written isPeer compiles built upserts =>
    have aside := compilesAside compiles
    have leaves := Firewall.upsert_goes upserts
    have desires : setting.Desires space policy (compiling ++ upserting) desired :=
      ⟨clusterId, spec, compiling, upserting, rfl, isPeer, compiles, built⟩
    have same : (written.mapError SyncError.upsert).toBool = written.toBool := by
      cases written <;> rfl
    constructor
    case noStatus =>
      rw [Transcript.sent_append]
      exact List.forall_mem_append.2
        ⟨fun e member => (aside e member).noStatus, leaves.noStatus⟩
    case inForce =>
      rw [same, Transcript.sent_append]
      exact fun isDone => ⟨desired, desires, (leaves.done isDone).append_left⟩
    case unwritten =>
      rw [same, Transcript.sent_append]
      intro isFailed
      exact List.forall_mem_append.2
        ⟨fun e member => Sent.not_storedFirewall (aside e member).noFirewall,
          fun e member => (leaves.failed isFailed e member).1⟩
    case unmatched =>
      rw [same, Transcript.sent_append]
      intro isFailed more other desiresToo
      rw [← (desires.append more).unique desiresToo]
      exact List.forall_mem_append.2
        ⟨fun e member => Sent.not_foundMatching (aside e member).noFirewall,
          fun e member => (leaves.failed isFailed e member).2⟩

/-! ### Reporting it -/

/-- What a pass over a policy that is there to stay comes to once its status is written, or not. -/
def applied (setting : Setting) (written : Except ApiError Unit) : Except SyncError Action :=
  match written with
  | .error error => .error (.api error)
  | .ok () => .ok (.requeue setting.resync)

/-- How a pass deals with a policy that is there to stay, given the events that are remembered. -/
inductive Applies (setting : Setting) (cache : EventCache) (space : String) (policy : Policy) :
    Transcript world → Except SyncError Action → Prop where
  /-- A failure is written on the status, if it can be, and then announced. -/
  | failed {bringing writing telling : Transcript world} {error : SyncError}
      {written : Except ApiError Unit}
      (brings : setting.Brings space policy bringing (.error error))
      (writes : (policy.updateStatus space error.outcome).run.Goes writing written)
      (tells : setting.Announces cache policy (.failed error.outcome.message) telling) :
      Applies setting cache space policy (bringing ++ (writing ++ telling)) (.error error)
  /-- A change is announced, and success is written on the status. -/
  | synced {bringing telling writing : Transcript world} {operation : WriteOperation}
      {written : Except ApiError Unit}
      (brings : setting.Brings space policy bringing (.ok operation))
      (tells : telling = [] ∨ setting.Announces cache policy (.synced operation) telling)
      (writes : (policy.updateStatus space .synced).run.Goes writing written) :
      Applies setting cache space policy (bringing ++ (telling ++ writing))
        (setting.applied written)

/-- For a peer, the status says that the configuration could not be brought up to date. -/
theorem Brings.outcome_eq {clusterId : String} {error : SyncError}
    (brings : setting.Brings space policy t (.error error))
    (isPeer : setting.info.tenants.clusterId space = .ok clusterId) :
    error.outcome = .syncFailed error.message := by
  generalize same : Except.error error = brought at brings
  cases brings with
  | noPeer noPeer => cases isPeer.symm.trans noPeer
  | uncompiled | unowned =>
    cases same
    rfl
  | @upserted _ _ _ _ _ written =>
    cases written <;> cases same
    rfl

/-- The reason on the status says whether the namespace names a peer. -/
theorem Brings.reason_outcome {error : SyncError}
    (brings : setting.Brings space policy t (.error error)) :
    error.outcome.reason.name = if (setting.info.tenants.clusterId space).toBool
      then ReadyReason.fabricSyncFailed.name else ReadyReason.clusterIdExtractionFailed.name := by
  cases isPeer : setting.info.tenants.clusterId space with
  | ok clusterId =>
    rw [brings.outcome_eq isPeer]
    rfl
  | error complaint =>
    generalize same : Except.error error = brought at brings
    cases brings with
    | noPeer =>
      cases same
      rfl
    | uncompiled isPeerToo | unowned isPeerToo | upserted isPeerToo =>
      cases isPeer.symm.trans isPeerToo

/-- What is kept once it is counted what became of the stored configuration. -/
def counted (ledger : Ledger) (operation : WriteOperation) : Ledger :=
  { ledger with metrics := ledger.metrics.wrote operation }

/-- How a pass deals with a policy that is there to stay, and what it leaves of what is kept. -/
inductive Deals (setting : Setting) (ledger : Ledger) (space : String) (policy : Policy) :
    Transcript world → Except SyncError Action → Ledger → Prop where
  /-- A failure is written on the status, if it can be, and then announced. -/
  | failed {bringing writing telling : Transcript world} {error : SyncError}
      {written : Except ApiError Unit} {after : Ledger}
      (brings : setting.Brings space policy bringing (.error error))
      (writes : (policy.updateStatus space error.outcome).run.Goes writing written)
      (tells : ((setting.announce policy (.failed error.outcome.message)).run ledger).Goes
        telling ((), after)) :
      Deals setting ledger space policy (bringing ++ (writing ++ telling)) (.error error) after
  /-- A change is counted and announced, and success is written on the status. -/
  | changed {bringing telling writing : Transcript world} {operation : WriteOperation}
      {written : Except ApiError Unit} {after : Ledger}
      (brings : setting.Brings space policy bringing (.ok operation))
      (isChange : operation.isChange)
      (tells : ((setting.announce policy (.synced operation)).run (counted ledger operation)).Goes
        telling ((), after))
      (writes : (policy.updateStatus space .synced).run.Goes writing written) :
      Deals setting ledger space policy (bringing ++ (telling ++ writing))
        (setting.applied written) after
  /-- That nothing is to be changed is counted, and success is written on the status. -/
  | settled {bringing writing : Transcript world} {operation : WriteOperation}
      {written : Except ApiError Unit}
      (brings : setting.Brings space policy bringing (.ok operation))
      (noChange : operation.isChange = false)
      (writes : (policy.updateStatus space .synced).run.Goes writing written) :
      Deals setting ledger space policy (bringing ++ writing) (setting.applied written)
        (counted ledger operation)

/-- What a pass tells does not depend on what is counted. -/
theorem Deals.applies {ledger after : Ledger} {result : Except SyncError Action}
    (deals : setting.Deals ledger space policy t result after) :
    setting.Applies ledger.events space policy t result := by
  cases deals with
  | failed brings writes tells => exact .failed brings writes (announce_goes tells)
  | changed brings isChange tells writes =>
    have announces := announce_goes tells
    exact .synced brings (.inr announces) writes
  | settled brings noChange writes => exact .synced brings (.inl rfl) writes

/-- A pass that reports success ends as writing the status does, and keeps what is kept. -/
theorem reportSuccess_goes {ledger after : Ledger} {result : Except SyncError Action}
    (goes : (((liftM (policy.updateStatus space .synced).run : Pass _) >>= fun written =>
      match written with
      | .error error => return .error (.api error)
      | .ok () => return .ok (.requeue setting.resync)).run ledger).Goes t (result, after)) :
    ∃ written, (policy.updateStatus space .synced).run.Goes t written ∧
      result = setting.applied written ∧ after = ledger := by
  rw [Program.run_stateT_lift_bind, Program.goes_bind] at goes
  obtain ⟨writing, _, written, rfl, writes, goes⟩ := goes
  refine ⟨written, ?_⟩
  cases written <;>
  · obtain ⟨rfl, same⟩ := goes
    cases same
    rw [List.append_nil]
    exact ⟨writes, rfl, rfl⟩

/-- Dealing with a policy that is there to stay. -/
theorem apply_goes {ledger after : Ledger} {result : Except SyncError Action}
    (goes : ((setting.apply space policy).run ledger).Goes t (result, after)) :
    setting.Deals ledger space policy t result after := by
  unfold apply at goes
  cases isPeer : setting.info.tenants.clusterId space with
  | error error =>
    simp only [isPeer] at goes
    rw [Program.run_stateT_bind, Program.goes_bind] at goes
    obtain ⟨reporting, _, ⟨_, reported⟩, rfl, reports, rfl, same⟩ := goes
    cases same
    obtain ⟨writing, telling, written, rfl, writes, tells⟩ := reportFailure_goes reports
    rw [List.append_nil]
    exact .failed (.noPeer isPeer) writes tells
  | ok clusterId =>
    simp only [isPeer] at goes
    rw [Program.run_stateT_lift_bind, Program.goes_bind] at goes
    obtain ⟨bringing, rest, brought, rfl, brings, goes⟩ := goes
    have brings := sync_goes isPeer brings
    cases brought with
    | error error =>
      rw [Program.run_stateT_bind, Program.goes_bind] at goes
      obtain ⟨reporting, _, ⟨_, reported⟩, rfl, reports, rfl, same⟩ := goes
      cases same
      obtain ⟨writing, telling, written, rfl, writes, tells⟩ := reportFailure_goes reports
      rw [List.append_nil]
      exact .failed brings (brings.outcome_eq isPeer ▸ writes) (brings.outcome_eq isPeer ▸ tells)
    | ok operation =>
      change Program.Goes (StateT.run (if _ then _ else _) _) rest (result, after) at goes
      split at goes
      · rw [Program.run_stateT_bind, Program.goes_bind] at goes
        obtain ⟨telling, writing, ⟨_, told⟩, rfl, tells, goes⟩ := goes
        obtain ⟨written, writes, rfl, rfl⟩ := reportSuccess_goes goes
        exact .changed brings ‹_› tells writes
      · obtain ⟨written, writes, rfl, rfl⟩ := reportSuccess_goes goes
        exact .settled brings (Bool.eq_false_iff.2 ‹_›) writes

/-! ### What the status says -/

/-- What has to be so where a pass writes a ready condition: given all that it has sent, what it has
sent before, what it went on with after it had fetched the policy, and its result. -/
inductive Truthful (setting : Setting) (space : String) (policy : Policy) (rest : Transcript world)
    (result : Except PassError Action) (made before : List Sent) (ready : Condition) : Prop where
  /-- The policy is in force: what its rules compile to is. -/
  | inForce {desired : Firewall} (status : ready.status = .true)
      (desires : setting.Desires space policy rest desired)
      (inForce : InForce space desired before)
  /-- The policy is not in force: nothing was stored and nothing found as it should be, and the
  message is that of the error with which the pass ends. -/
  | notInForce {error : SyncError} {front : String} (status : ready.status = .false)
      (unwritten : ∀ e ∈ made, ¬ e.StoredFirewall)
      (unmatched : ∀ desired, setting.Desires space policy rest desired →
        ∀ e ∈ made, ¬ e.FoundMatching desired)
      (fails : result = .error (.finalizer (.applyFailed error)))
      (message : ready.message = some (front ++ error.message))
      (reason : ready.reason = some (if (setting.info.tenants.clusterId space).toBool
        then ReadyReason.fabricSyncFailed.name else ReadyReason.clusterIdExtractionFailed.name))

/-- What is sent about other things before makes no difference. -/
theorem Truthful.cons {rest : Transcript world} {result : Except PassError Action}
    {made before : List Sent} {ready : Condition} {e : Sent}
    (noFirewall : e.request.endpoint.concerns .firewall = false)
    (truthful : setting.Truthful space policy rest result made before ready) :
    setting.Truthful space policy rest result (e :: made) (e :: before) ready := by
  cases truthful with
  | @inForce desired status desires inForce =>
    have inForce : InForce space desired ([e] ++ before) := inForce.append_left
    exact .inForce status desires inForce
  | @notInForce error front status unwritten unmatched fails message reason =>
    refine .notInForce status ?_ ?_ fails message reason
    · exact List.forall_mem_cons.2 ⟨Sent.not_storedFirewall noFirewall, unwritten⟩
    · intro desired desires
      exact List.forall_mem_cons.2 ⟨Sent.not_foundMatching noFirewall, unmatched desired desires⟩

/-- How a pass over a policy that is there to stay ends if it says so on the status. -/
inductive EndsAs (setting : Setting) : Except PassError Action → Outcome → Prop where
  | synced : EndsAs setting (.ok (.requeue setting.resync)) .synced
  | failed (error : SyncError) :
      EndsAs setting (.error (.finalizer (.applyFailed error))) error.outcome

/-- What a failure to deal with a fetched policy means for the pass. -/
def passResult (applied : Except SyncError Action) : Except PassError Action :=
  (applied.mapError FinalizerError.applyFailed).mapError PassError.finalizer

/-- What a pass over a policy that is there to stay sends: first what brings the configuration up to
date, then the status, and then other things, if anything. -/
theorem Applies.course {cache : EventCache} (looksAside : setting.LooksAside)
    {result : Except SyncError Action}
    (applies : setting.Applies cache space policy t result) :
    ∃ outcome before writing later written,
      Transcript.sent t = before ++ (Transcript.sent writing ++ later) ∧
      (∀ e ∈ before, e.request.isStatusPatch = false) ∧
      (∀ e ∈ later, e.request.isStatusPatch = false) ∧
      (∀ step ∈ writing, step ∈ t) ∧
      (policy.updateStatus space outcome).run.Goes writing written ∧
      (written = .ok () → setting.EndsAs (passResult result) outcome) ∧
      ∀ conditions generation now,
        setting.Truthful space policy t (passResult result) (Transcript.sent t) before
          (PolicyStatus.readyAfter conditions generation outcome now) := by
  cases applies with
  | @failed bringing writing telling error written brings writes tells =>
    have brought := brings.brought looksAside
    have others : ∀ e ∈ Transcript.sent (writing ++ telling),
        e.request.endpoint.concerns .firewall = false := by
      rw [Transcript.sent_append]
      exact List.forall_mem_append.2
        ⟨Policy.updateStatus_noFirewall writes, fun e member => (tells.isAside e member).noFirewall⟩
    refine ⟨error.outcome, Transcript.sent bringing, writing, Transcript.sent telling, written,
      by simp, brought.noStatus, fun e member => (tells.isAside e member).noStatus, ?_, writes,
      fun _ => .failed error, ?_⟩
    · intro step member
      exact List.mem_append_right _ (List.mem_append_left _ member)
    · intro conditions generation now
      obtain ⟨front, message⟩ := error.message_outcome
      refine .notInForce error.conditionStatus_outcome ?_ ?_ rfl (congrArg some message)
        (congrArg some brings.reason_outcome)
      · rw [Transcript.sent_append]
        exact List.forall_mem_append.2
          ⟨brought.unwritten rfl, fun e member => Sent.not_storedFirewall (others e member)⟩
      · intro desired desires
        rw [Transcript.sent_append]
        exact List.forall_mem_append.2 ⟨brought.unmatched rfl _ desired desires,
          fun e member => Sent.not_foundMatching (others e member)⟩
  | @synced bringing telling writing operation written brings tells writes =>
    have brought := brings.brought looksAside
    have tells : ∀ e ∈ Transcript.sent telling, e.request.IsAside := by
      rcases tells with rfl | tells
      · exact List.forall_mem_nil _
      · exact tells.isAside
    refine ⟨.synced, Transcript.sent bringing ++ Transcript.sent telling, writing, [], written,
      by simp, ?_, List.forall_mem_nil _, ?_, writes, ?_, ?_⟩
    · exact List.forall_mem_append.2
        ⟨brought.noStatus, fun e member => (tells e member).noStatus⟩
    · intro step member
      exact List.mem_append_right _ (List.mem_append_right _ member)
    · rintro rfl
      exact .synced
    · intro conditions generation now
      obtain ⟨desired, desires, inForce⟩ := brought.inForce rfl
      exact .inForce rfl (desires.append _)
        (inForce.append_right fun e member => (tells e member).noFirewall)

/-- What a pass that went on with a fetched policy tells on its status, given all that it has sent
and its result. -/
structure Reports (setting : Setting) (space : String) (fetched : Policy) (rest : Transcript world)
    (result : Except PassError Action) (made : List Sent) : Prop where
  /-- A status that is written is that of the fetched policy, about the generation that was fetched,
  and what its ready condition says is so. -/
  truthful : ∀ write ∈ made, write.request.isStatusPatch → ∃ before later status ready,
    made = before ++ write :: later ∧
    write.request.endpoint =
      .status (ApiCall.objects Policy (some space)) fetched.metadata.displayName ∧
    write.request.writtenStatus? = some status ∧
    status.observedGeneration = fetched.metadata.generation ∧
    status.ready? = some ready ∧ ready.observedGeneration = fetched.metadata.generation ∧
    setting.Truthful space fetched rest result made before ready
  /-- Where the status is not written, though the policy is there to stay and can be addressed, it
  says already how the pass ends. -/
  omitted : fetched.Stays → fetched.Addressable space →
    (∀ e ∈ made, e.request.isStatusPatch = false) → ∃ now outcome,
      WorldStep.clock now ∈ rest ∧ setting.EndsAs result outcome ∧
      fetched.status =
        some (.afterPass fetched.status fetched.metadata.generation outcome now)

/-- Where no status is written, only the reason for that matters. -/
theorem Reports.of_quiet {rest : Transcript world} {result : Except PassError Action}
    {made : List Sent} (quiet : ∀ e ∈ made, e.request.isStatusPatch = false)
    (omitted : policy.Stays → policy.Addressable space → ∃ now outcome,
      WorldStep.clock now ∈ rest ∧ setting.EndsAs result outcome ∧
      policy.status = some (.afterPass policy.status policy.metadata.generation outcome now)) :
    setting.Reports space policy rest result made where
  truthful write member isStatus := by
    cases (quiet write member).symm.trans isStatus
  omitted stays addressable _ := omitted stays addressable

/-- What is sent about other things before makes no difference. -/
theorem Reports.cons {rest : Transcript world} {result : Except PassError Action}
    {made : List Sent} {e : Sent} (aside : e.request.IsAside)
    (reports : setting.Reports space policy rest result made) :
    setting.Reports space policy rest result (e :: made) where
  truthful write member isStatus := by
    rcases List.mem_cons.1 member with rfl | member
    · cases aside.noStatus.symm.trans isStatus
    · obtain ⟨before, later, status, ready, rfl, endpoint, writes, generation, isReady, isAbout,
        truthful⟩ := reports.truthful write member isStatus
      exact ⟨e :: before, later, status, ready, rfl, endpoint, writes, generation, isReady, isAbout,
        truthful.cons aside.noFirewall⟩
  omitted stays addressable quiet :=
    reports.omitted stays addressable (List.forall_mem_cons.1 quiet).2

/-- Where no status is written, it is written at most once. -/
theorem quiet_once {made : List Sent} (quiet : ∀ e ∈ made, e.request.isStatusPatch = false) :
    (made.filter (·.request.isStatusPatch)).length ≤ 1 := by
  have none : made.filter (·.request.isStatusPatch) = [] :=
    List.filter_eq_nil_iff.2 fun e member => by simp [quiet e member]
  rw [none]
  exact Nat.zero_le 1

/-- Dealing with a policy that is there to stay writes its status truthfully, if at all. -/
theorem Applies.reports {cache : EventCache} (looksAside : setting.LooksAside)
    {result : Except SyncError Action}
    (applies : setting.Applies cache space policy t result) :
    ((Transcript.sent t).filter (·.request.isStatusPatch)).length ≤ 1 ∧
      setting.Reports space policy t (passResult result) (Transcript.sent t) := by
  obtain ⟨outcome, before, writing, later, written, all, quietBefore, quietLater, within, writes,
    ends, truthful⟩ := applies.course looksAside
  have once (middle : List Sent) :
      ((before ++ (middle ++ later)).filter (·.request.isStatusPatch)).length ≤ middle.length := by
    have noneBefore : before.filter (·.request.isStatusPatch) = [] :=
      List.filter_eq_nil_iff.2 fun e member => by simp [quietBefore e member]
    have noneLater : later.filter (·.request.isStatusPatch) = [] :=
      List.filter_eq_nil_iff.2 fun e member => by simp [quietLater e member]
    rw [List.filter_append, List.filter_append, noneBefore, noneLater, List.nil_append,
      List.append_nil]
    exact List.length_filter_le _ _
  have quiet : ∀ e ∈ before ++ ([] ++ later), e.request.isStatusPatch = false :=
    List.forall_mem_append.2 ⟨quietBefore, quietLater⟩
  obtain ⟨now, rest, rfl, ended⟩ := Policy.updateStatus_goes writes
  have isRead : WorldStep.clock now ∈ t := within _ List.mem_cons_self
  rcases ended with ⟨same, rfl, rfl⟩ | ⟨rfl, unaddressable, _⟩ | ⟨reply, rfl⟩
  · rw [Transcript.sent_cons_clock, Transcript.sent_nil] at all
    rw [all]
    exact ⟨Nat.le_trans (once []) (Nat.zero_le 1),
      .of_quiet quiet fun _ _ => ⟨now, outcome, isRead, ends rfl, same⟩⟩
  · rw [Transcript.sent_cons_clock, Transcript.sent_nil] at all
    rw [all]
    exact ⟨Nat.le_trans (once []) (Nat.zero_le 1),
      .of_quiet quiet fun _ addressable => absurd addressable unaddressable⟩
  · rw [Transcript.sent_cons_clock, Transcript.sent_cons_sent, Transcript.sent_nil] at all
    rw [all] at truthful ⊢
    refine ⟨once _, ?_, ?_⟩
    · intro write member isStatus
      have isIt : write = ⟨policy.statusRequest space
          (.afterPass policy.status policy.metadata.generation outcome now), reply⟩ := by
        rcases List.mem_append.1 member with early | member
        · cases (quietBefore write early).symm.trans isStatus
        · rcases List.mem_append.1 member with isIt | late
          · exact List.mem_singleton.1 isIt
          · cases (quietLater write late).symm.trans isStatus
      subst isIt
      exact ⟨before, later, _, _, rfl, rfl, policy.writtenStatus?_statusRequest space _, rfl,
        PolicyStatus.ready?_afterPass .., rfl, truthful _ _ now⟩
    · intro _ _ quietToo
      cases (quietToo _ (List.mem_append_right _ List.mem_cons_self) : _ = false)

/-! ### The whole pass -/

/-- Whether a question leaves every status as it is. -/
def LeavesStatus : WorldQuestion → Prop
  | .send request => request.isStatusPatch = false
  | .clock | .look _ => True

/-- What a pass over a policy that is not there to stay may ask leaves every status as it is. -/
theorem MayAsk.leavesStatus {cache : EventCache} {question : WorldQuestion}
    (mayAsk : setting.MayAsk WorldQuestion.IsAside cache space policy question)
    (gone : ¬ policy.Stays) : LeavesStatus question := by
  cases mayAsk with
  | look aside =>
    cases question with
    | send request => exact aside.noStatus
    | clock | look query => trivial
  | statusWritten marked kept => exact absurd ⟨marked, kept⟩ gone
  | announced content now => exact (ClusterEvent.isAside_request _).noStatus
  | clock => trivial
  | firewallRead | firewallCreated | firewallReplaced | firewallDeleted | finalizersPatched => rfl

/-- Dealing with a policy that is not there to stay leaves every status as it is. -/
theorem finalize_leavesStatus (looksAside : setting.LooksAside) (gone : ¬ policy.Stays)
    (ledger : Ledger) : ((setting.finalize space policy).run ledger).Asks LeavesStatus :=
  (finalize_mayAsk looksAside).asks.imp fun _ mayAsk => mayAsk.leavesStatus gone

/-- A policy that is there to stay is applied, once it is fetched. -/
theorem finalize_applies (stays : policy.Stays) {ledger after : Ledger}
    {result : Except FinalizerError Action}
    (goes : ((setting.finalize space policy).run ledger).Goes t (result, after)) :
    ∃ applied, ((setting.apply space policy).run ledger).Goes t (applied, after) ∧
      result = applied.mapError .applyFailed := by
  obtain ⟨place, marked⟩ := Option.ne_none_iff_exists'.1 stays.marked
  rw [finalize_staying marked stays.kept, Program.run_stateT_bind, Program.goes_bind] at goes
  obtain ⟨applying, _, ⟨applied, _⟩, rfl, applies, rfl, same⟩ := goes
  cases same
  rw [List.append_nil]
  exact ⟨applied, applies, rfl⟩

/-- Dealing with a policy that is there to stay, once it is fetched. -/
theorem finalize_deals (stays : policy.Stays) {ledger after : Ledger}
    {result : Except FinalizerError Action}
    (goes : ((setting.finalize space policy).run ledger).Goes t (result, after)) :
    ∃ applied, setting.Deals ledger space policy t applied after ∧
      result = applied.mapError .applyFailed := by
  obtain ⟨applied, applies, ends⟩ := finalize_applies stays goes
  exact ⟨applied, apply_goes applies, ends⟩

/-- What a pass over a policy that is there to stay tells, once it is fetched. -/
theorem finalize_goes (stays : policy.Stays) {ledger after : Ledger}
    {result : Except FinalizerError Action}
    (goes : ((setting.finalize space policy).run ledger).Goes t (result, after)) :
    ∃ applied, setting.Applies ledger.events space policy t applied ∧
      result = applied.mapError .applyFailed := by
  obtain ⟨applied, deals, ends⟩ := finalize_deals stays goes
  exact ⟨applied, deals.applies, ends⟩

/-- Whether a pass has fetched no policy and sent nothing but the request for it. -/
structure Unfetched (queued : Policy) (t : Transcript world) : Prop where
  unfetched : ∀ space fetched rest, ¬ queued.Fetched space fetched t rest
  reads : ∀ e ∈ Transcript.sent t, ∃ space,
    e.request = ApiCall.readRequest Policy space queued.metadata.displayName

/-- A pass that has fetched no policy has changed no status. -/
theorem Unfetched.noStatus {queued : Policy} (unfetched : Unfetched queued t) :
    ∀ e ∈ Transcript.sent t, e.request.isStatusPatch = false := by
  intro e member
  obtain ⟨space, same⟩ := unfetched.reads e member
  rw [same]
  rfl

/-- A pass that has only read the clock has fetched no policy. -/
theorem Unfetched.clock {queued : Policy} (now : Time.Instant) :
    Unfetched queued [WorldStep.clock now] where
  unfetched := by
    rintro _ _ _ ⟨_, _, _, same, _⟩
    cases same
  reads := List.forall_mem_nil _

/-- A pass that has not found the policy by reading it has fetched none. -/
theorem Unfetched.read {queued : Policy} {now : Time.Instant} {space : String} {reply : Reply}
    (nothing : ∀ fetched, ApiCall.absenceIsNone (reply.read Policy.decode) ≠ .ok (some fetched)) :
    Unfetched queued [WorldStep.clock now,
      WorldStep.sent (ApiCall.readRequest Policy space queued.metadata.displayName) reply] where
  unfetched := by
    rintro _ fetched _ ⟨_, _, _, same, reads⟩
    cases same
    exact ApiCall.ne_ok_of_absenceIsNone nothing fetched reads
  reads := List.forall_mem_singleton.2 ⟨space, rfl⟩

/-- A pass deals with the policy that it fetches, or it fetches none, sends nothing else and keeps
what is kept. -/
theorem pass_course {queued : Policy} {ledger after : Ledger} {result : Except PassError Action}
    (goes : ((setting.pass queued).run ledger).Goes t (result, after)) :
    (Unfetched queued t ∧ after = ledger) ∨
      ∃ space fetched rest finalized, queued.Fetched space fetched t rest ∧
        ((setting.finalize space fetched).run ledger).Goes rest (finalized, after) ∧
        result = finalized.mapError .finalizer := by
  unfold pass at goes
  rw [Program.run_stateT_lift_bind, Program.goes_bind] at goes
  obtain ⟨_, rest, now, rfl, ⟨now, _, rfl, rfl, rfl⟩, goes⟩ := goes
  split at goes
  · split at goes
    · obtain ⟨rfl, same⟩ := goes
      cases same
      exact .inl ⟨.clock now, rfl⟩
    · rename_i space home
      rw [Program.run_stateT_lift_bind, Program.goes_bind] at goes
      obtain ⟨fetching, rest, found, rfl, fetches, goes⟩ := goes
      rcases ApiCall.goes_get? fetches with ⟨rfl, fault, rfl⟩ | ⟨reply, rfl, rfl⟩
      · obtain ⟨rfl, same⟩ := goes
        cases same
        exact .inl ⟨.clock now, rfl⟩
      · generalize found : ApiCall.absenceIsNone _ = outcome at goes
        rcases outcome with error | (_ | fetched)
        · obtain ⟨rfl, same⟩ := goes
          cases same
          refine .inl ⟨.read fun fetched isThere => ?_, rfl⟩
          cases found.symm.trans isThere
        · obtain ⟨rfl, same⟩ := goes
          cases same
          refine .inl ⟨.read fun fetched isThere => ?_, rfl⟩
          cases found.symm.trans isThere
        · rw [Program.run_stateT_bind, Program.goes_bind] at goes
          obtain ⟨rest, _, ⟨finalized, _⟩, rfl, finalizes, rfl, same⟩ := goes
          cases same
          rw [List.append_nil]
          exact .inr ⟨space, fetched, rest, finalized,
            ⟨home, now, reply, rfl, ApiCall.eq_of_absenceIsNone found⟩, finalizes, rfl⟩
  · obtain ⟨rfl, same⟩ := goes
    cases same
    exact .inl ⟨.clock now, rfl⟩

/-- A pass deals with the policy that it fetches, or it fetches none and sends nothing else. -/
theorem pass_goes {queued : Policy} {ledger after : Ledger} {result : Except PassError Action}
    (goes : ((setting.pass queued).run ledger).Goes t (result, after)) :
    Unfetched queued t ∨ ∃ space fetched rest finalized, queued.Fetched space fetched t rest ∧
      ((setting.finalize space fetched).run ledger).Goes rest (finalized, after) ∧
      result = finalized.mapError .finalizer :=
  (pass_course goes).imp_left And.left

/-- What a pass tells on the status of a policy is so. -/
structure Honest (setting : Setting) (queued : Policy) (t : Transcript world)
    (result : Except PassError Action) : Prop where
  /-- A status is written at most once. -/
  once : ((Transcript.sent t).filter (·.request.isStatusPatch)).length ≤ 1
  /-- A status is written only if the policy was fetched. -/
  fetched : ∀ write ∈ Transcript.sent t, write.request.isStatusPatch →
    ∃ space fetched rest, queued.Fetched space fetched t rest
  /-- What is written is so, and what is left out is written already. -/
  reports : ∀ space fetched rest, queued.Fetched space fetched t rest →
    setting.Reports space fetched rest result (Transcript.sent t)

/-- A pass that has fetched no policy tells nothing. -/
theorem Unfetched.honest {queued : Policy} {result : Except PassError Action}
    (unfetched : Unfetched queued t) : setting.Honest queued t result where
  once := quiet_once unfetched.noStatus
  fetched write member isStatus := by
    cases (unfetched.noStatus write member).symm.trans isStatus
  reports space fetched rest isFetched :=
    absurd isFetched (unfetched.unfetched space fetched rest)

/-- Whatever a pass is answered, what it tells on the status of a policy is so. -/
theorem pass_honest (setting : Setting) (looksAside : setting.LooksAside) (queued : Policy)
    (ledger after : Ledger) (t : Transcript world) (result : Except PassError Action)
    (goes : ((setting.pass queued).run ledger).Goes t (result, after)) :
    setting.Honest queued t result := by
  rcases pass_goes goes with
    unfetched | ⟨space, fetched, rest, finalized, isFetched, finalizes, rfl⟩
  · exact unfetched.honest
  · have reports : ((Transcript.sent rest).filter (·.request.isStatusPatch)).length ≤ 1 ∧
        setting.Reports space fetched rest (finalized.mapError .finalizer)
          (Transcript.sent rest) := by
      by_cases stays : fetched.Stays
      · obtain ⟨applied, applies, rfl⟩ := finalize_goes stays finalizes
        exact applies.reports looksAside
      · have quiet := Transcript.sent_of_asks (finalize_leavesStatus looksAside stays ledger)
          finalizes
        exact ⟨quiet_once quiet, .of_quiet quiet fun staysToo => absurd staysToo stays⟩
    obtain ⟨once, reports⟩ := reports
    have fetches := isFetched
    obtain ⟨home, now, reply, rfl, reads⟩ := fetches
    constructor
    case once => exact once
    case fetched =>
      intro _ _ _
      exact ⟨space, fetched, rest, isFetched⟩
    case reports =>
      intro _ _ _ isFetchedToo
      obtain ⟨rfl, rfl, rfl⟩ := isFetched.unique isFetchedToo
      exact reports.cons ⟨rfl, rfl⟩

/-! ### Two passes -/

/-- A pass goes on with the policy that it finds. -/
theorem goes_of_fetched {queued fetched : Policy} {ledger after : Ledger} {now : Time.Instant}
    {uri : Uri} {reply : Reply} {rest : Transcript world} {finalized : Except FinalizerError Action}
    (isCurrent : setting.leadership.isCurrent now) (home : queued.metadata.namespace = some space)
    (named : queued.metadata.displayName ≠ "")
    (address : (ApiCall.readRequest Policy space queued.metadata.displayName).uri? = .ok uri)
    (reads : reply.read Policy.decode = .ok fetched)
    (goes : ((setting.finalize space fetched).run ledger).Goes rest (finalized, after)) :
    ((setting.pass queued).run ledger).Goes (WorldStep.clock now ::
      WorldStep.sent (ApiCall.readRequest Policy space queued.metadata.displayName) reply :: rest)
      (finalized.mapError .finalizer, after) := by
  have fetches : (ApiCall.get? (some space) queued.metadata.displayName :
      ApiCall (Option Policy)).run.Goes
        [WorldStep.sent (ApiCall.readRequest Policy space queued.metadata.displayName) reply]
        (.ok (some fetched)) := by
    have found : ApiCall.absenceIsNone (reply.read Policy.decode) = .ok (some fetched) :=
      congrArg ApiCall.absenceIsNone reads
    exact found ▸ ApiCall.get?_goes named address reply
  unfold pass
  rw [Program.run_stateT_lift_bind, Program.goes_bind]
  refine ⟨[WorldStep.clock now], _, now, rfl, ⟨now, [], rfl, rfl, rfl⟩, ?_⟩
  simp only [isCurrent, if_true, home]
  rw [Program.run_stateT_lift_bind, Program.goes_bind]
  refine ⟨[_], rest, .ok (some fetched), rfl, fetches, ?_⟩
  rw [Program.run_stateT_bind, Program.goes_bind]
  exact ⟨rest, [], (finalized, after), (List.append_nil _).symm, goes, rfl, rfl⟩

/-- A pass that has fetched a policy goes on as it is answered. -/
theorem pass_goes_answered {σ : Type} {queued fetched : Policy} {now : Time.Instant} {uri : Uri}
    {reply : Reply} (respond : (question : world.Question) → σ → world.Answer question × σ) (s : σ)
    (isCurrent : setting.leadership.isCurrent now) (home : queued.metadata.namespace = some space)
    (named : queued.metadata.displayName ≠ "")
    (address : (ApiCall.readRequest Policy space queued.metadata.displayName).uri? = .ok uri)
    (reads : reply.read Policy.decode = .ok fetched) :
    ∃ t result after, ((setting.pass queued).run ledger).Goes t (result, after) ∧
      queued.Fetched space fetched t
        (((setting.finalize space fetched).run ledger).transcript respond s) := by
  have deal := Program.goes_run respond ((setting.finalize space fetched).run ledger) s
  exact ⟨_, _, _, goes_of_fetched isCurrent home named address reads deal, home, now, reply, rfl,
    reads⟩

/-- A setting in which the state of the cluster is read through the API server. -/
def served : Setting where
  resolvers := ⟨[], []⟩
  info := .standard
  leadership := ⟨⟨"host", ⟨1, 0⟩⟩, "host"⟩
  «instance» := "host"
  resync := 60
  lookUp := ClusterInfo.standard.read

/-- Answers to a pass at the beginning of time: the policy is as it is, no firewall configuration is
stored, and whatever is written is stored. -/
def answers (policy : Policy) : (question : world.Question) → Unit → world.Answer question × Unit
  | .send request, _ =>
    (if request.endpoint.concerns .policy then Store.reply policy.encode
      else if request.isRead then Store.refusal 404 "NotFound"
      else Store.reply (request.body.getD .null), ())
  | .clock, _ => ((⟨0, 0⟩ : Time.Instant), ())
  | .look (.cidr _), _ => (.error ⟨"unknown", []⟩, ())
  | .look (.pods _), _ => (.error ⟨"unknown", []⟩, ())

/-- A policy without rules of that name in a namespace, which carries the mark. -/
def marked (name space : String) : Policy where
  metadata := { Metadata.empty with
    name := some name
    «namespace» := some space
    uid := some "u1"
    generation := some 1
    finalizers := some [Finalizer.name] }
  spec := ⟨[]⟩
  status := none

/-- The address at which a policy in the namespace of a peer is read. -/
theorem uri?_readRules_tenant : (ApiCall.readRequest Policy "liqo-tenant-c" "rules").uri? = .ok
    ⟨"/apis/connectivity.liqo.io/v1/namespaces/liqo-tenant-c/peeringconnectivities/rules", []⟩ := by
  decide +kernel

/-- The address at which a policy outside the namespaces of peers is read. -/
theorem uri?_readRules_default : (ApiCall.readRequest Policy "default" "rules").uri? = .ok
    ⟨"/apis/connectivity.liqo.io/v1/namespaces/default/peeringconnectivities/rules", []⟩ := by
  decide +kernel

/-- A pass over a policy of that name that is fetched as it is goes on as it is answered. -/
theorem served_goes {σ : Type} {policy : Policy} {reply : Reply}
    (named : policy.metadata.displayName = "rules")
    (home : policy.metadata.namespace = some "liqo-tenant-c")
    (reads : reply.read Policy.decode = .ok policy)
    (respond : (question : world.Question) → σ → world.Answer question × σ) (s : σ) :
    ∃ t result after, ((served.pass policy).run .fresh).Goes t (result, after) ∧
      policy.Fetched "liqo-tenant-c" policy t
        (((served.finalize "liqo-tenant-c" policy).run .fresh).transcript respond s) := by
  have isCurrent : served.leadership.isCurrent ⟨0, 0⟩ := by decide
  exact pass_goes_answered respond s isCurrent home (by rw [named]; decide)
    (by rw [named]; exact uri?_readRules_tenant) reads

/-- A pass over a policy outside the namespaces of peers goes on as it is answered, whatever policy
is read for it. -/
theorem served_goes_default {σ : Type} {fetched : Policy} {reply : Reply}
    (reads : reply.read Policy.decode = .ok fetched)
    (respond : (question : world.Question) → σ → world.Answer question × σ) (s : σ) :
    ∃ t result after, ((served.pass (marked "rules" "default")).run .fresh).Goes t (result, after) ∧
      (marked "rules" "default").Fetched "default" fetched t
        (((served.finalize "default" fetched).run .fresh).transcript respond s) := by
  have isCurrent : served.leadership.isCurrent ⟨0, 0⟩ := by decide
  exact pass_goes_answered respond s isCurrent rfl (by decide) uri?_readRules_default reads

/-- A pass over a policy without rules tells on its status that it is in force. -/
theorem pass_honest_served :
    ∃ t result, (Transcript.sent t).any (·.request.isStatusPatch) ∧
      served.Honest (marked "rules" "liqo-tenant-c") t result := by
  let queued := marked "rules" "liqo-tenant-c"
  have tells : (Transcript.sent (((served.pass queued).run .fresh).transcript (answers queued)
      ())).any (·.request.isStatusPatch) := by
    decide +kernel
  have goes := Program.goes_run (answers queued) ((served.pass queued).run .fresh) ()
  generalize ((served.pass queued).run .fresh).run (answers queued) () = ended at goes
  obtain ⟨⟨result, after⟩, _⟩ := ended
  exact ⟨_, result, tells,
    pass_honest served (looksAside_read rfl) queued .fresh after _ result goes⟩

/-- It is not so that a pass over any policy with a name writes its status unless that says already
how the pass ends: the status of a policy whose name makes no address is not written. -/
theorem pass_silent_misnamed :
    ¬ ∀ (setting : Setting), setting.LooksAside → ∀ (queued : Policy) (ledger after : Ledger)
      (t : Transcript world) (result : Except PassError Action),
      ((setting.pass queued).run ledger).Goes t (result, after) →
      ∀ space fetched rest, queued.Fetched space fetched t rest → fetched.Stays →
        (∃ name, fetched.metadata.name = some name ∧ name ≠ "") →
        (∀ e ∈ Transcript.sent t, e.request.isStatusPatch = false) →
        ∃ now outcome, WorldStep.clock now ∈ rest ∧ setting.EndsAs result outcome ∧
          fetched.status =
            some (.afterPass fetched.status fetched.metadata.generation outcome now) := by
  intro always
  let queued := marked "rules" "default"
  let misnamed := marked "a b" "default"
  let deals := (served.finalize "default" misnamed).run .fresh
  let rest := deals.transcript (answers misnamed) ()
  have reads : (Store.reply misnamed.encode).read Policy.decode = .ok misnamed := by
    decide +kernel
  have quiet : (Transcript.sent rest).any (·.request.isStatusPatch) = false := by decide +kernel
  have deal : deals.Goes rest (deals.run (answers misnamed) ()).1 := Program.goes_run _ deals ()
  generalize (deals.run (answers misnamed) ()).1 = ended at deal
  obtain ⟨finalized, after⟩ := ended
  have isCurrent : served.leadership.isCurrent ⟨0, 0⟩ := by decide
  have stays : misnamed.Stays := ⟨by decide, rfl⟩
  have goes : ((served.pass queued).run .fresh).Goes _ _ :=
    goes_of_fetched isCurrent rfl (by decide) uri?_readRules_default reads deal
  have quietToo : ∀ e ∈ Transcript.sent rest, e.request.isStatusPatch = false := fun e member =>
    eq_false_of_ne_true (List.any_eq_false.1 quiet e member)
  obtain ⟨_, _, _, _, same⟩ := always served (looksAside_read rfl) queued .fresh after _ _ goes
    "default" misnamed rest ⟨rfl, ⟨0, 0⟩, _, rfl, reads⟩ stays ⟨"a b", rfl, by decide⟩
    (List.forall_mem_cons.2 ⟨rfl, quietToo⟩)
  cases same

end Setting

end PeerFirewall
