import PeerFirewall.Proofs.Api.Sent
import PeerFirewall.Proofs.Reconcile.Upsert

/-!
# Whether the desired configuration is in force

The desired firewall configuration is in force after requests if one of them stored it, or if the
last one that read the configuration found it as it should be. Writing the desired configuration
succeeds only if it is in force then; if it fails, nothing was stored and nothing found as it should
be (`Firewall.upsert_goes`).
-/
namespace PeerFirewall

namespace Request

/-- Whether a request changes parts of a status. -/
def isStatusPatch (request : Request) : Bool :=
  match request.method, request.endpoint with
  | .patch _, .status _ _ => true
  | _, _ => false

/-- Whether a request reads a firewall configuration. -/
def readsFirewall (request : Request) : Bool :=
  request.method = .get ∧ request.endpoint.concerns .firewall

/-- Whether a request creates or replaces a firewall configuration. -/
def storesFirewall (request : Request) : Bool :=
  (request.method = .post ∨ request.method = .put) ∧ request.endpoint.concerns .firewall

/-- Whether a request neither changes a status nor is about firewall configurations. -/
structure IsAside (request : Request) : Prop where
  noStatus : request.isStatusPatch = false
  noFirewall : request.endpoint.concerns .firewall = false

end Request

namespace Sent

/-- Whether a firewall configuration was stored, by the reply. -/
def StoredFirewall (e : Sent) : Prop :=
  e.request.storesFirewall ∧ ∃ stored, e.reply.read Firewall.decode = .ok stored

/-- Whether the desired firewall configuration was stored, by the reply: created, or laid over
another one. -/
def Stored («namespace» : String) (desired : Firewall) (e : Sent) : Prop :=
  (e.request = Firewall.createRequest «namespace» desired ∨
    ∃ current : Firewall, e.request = Firewall.replaceRequest «namespace»
      desired.metadata.displayName (current.overlay desired)) ∧
  ∃ stored, e.reply.read Firewall.decode = .ok stored

/-- Whether a firewall configuration was read that is as it should be. -/
def FoundMatching (desired : Firewall) (e : Sent) : Prop :=
  e.request.readsFirewall ∧
    ∃ current, e.reply.read Firewall.decode = .ok current ∧ current.merge desired = none

/-- A request about other things stores no firewall configuration. -/
theorem not_storedFirewall {e : Sent}
    (noFirewall : e.request.endpoint.concerns .firewall = false) : ¬ e.StoredFirewall := by
  intro stored
  have concerns := (of_decide_eq_true stored.1).2
  rw [noFirewall] at concerns
  contradiction

/-- A request about other things reads no firewall configuration. -/
theorem readsFirewall_eq_false {e : Sent}
    (noFirewall : e.request.endpoint.concerns .firewall = false) :
    e.request.readsFirewall = false := by
  simp [Request.readsFirewall, noFirewall]

/-- A request about other things finds no firewall configuration. -/
theorem not_foundMatching {e : Sent} {desired : Firewall}
    (noFirewall : e.request.endpoint.concerns .firewall = false) : ¬ e.FoundMatching desired := by
  intro found
  cases (readsFirewall_eq_false noFirewall).symm.trans found.1

end Sent

/-- Whether requests leave the desired configuration in force: one of them stored it, or the last
one that read the configuration found it as it should be. -/
def InForce («namespace» : String) (desired : Firewall) (made : List Sent) : Prop :=
  (∃ e ∈ made, e.Stored «namespace» desired) ∨
    ∃ e, (made.filter (·.request.readsFirewall)).getLast? = some e ∧ e.FoundMatching desired

/-- Whether requests stored no configuration and found none as it should be. -/
def InVain (desired : Firewall) (made : List Sent) : Prop :=
  ∀ e ∈ made, ¬ e.StoredFirewall ∧ ¬ e.FoundMatching desired

section

variable {space : String} {desired : Firewall} {first later : List Sent}

/-- What is in force stays so when other requests were made before. -/
theorem InForce.append_left (inForce : InForce space desired later) :
    InForce space desired (first ++ later) := by
  rcases inForce with ⟨e, member, stored⟩ | ⟨e, isLast, found⟩
  · exact .inl ⟨e, List.mem_append_right _ member, stored⟩
  · refine .inr ⟨e, ?_, found⟩
    rw [List.filter_append, List.getLast?_append, isLast, Option.some_or]

/-- What is in force stays so when requests about other things are made after. -/
theorem InForce.append_right (inForce : InForce space desired first)
    (noFirewall : ∀ e ∈ later, e.request.endpoint.concerns .firewall = false) :
    InForce space desired (first ++ later) := by
  have none : later.filter (·.request.readsFirewall) = [] :=
    List.filter_eq_nil_iff.2 fun e member => by
      simp [Sent.readsFirewall_eq_false (noFirewall e member)]
  rcases inForce with ⟨e, member, stored⟩ | ⟨e, isLast, found⟩
  · exact .inl ⟨e, List.mem_append_left _ member, stored⟩
  · refine .inr ⟨e, ?_, found⟩
    rw [List.filter_append, none, List.append_nil, isLast]

/-- Requests are in vain if those of two parts are. -/
theorem InVain.append (before : InVain desired first) (after : InVain desired later) :
    InVain desired (first ++ later) :=
  List.forall_mem_append.2 ⟨before, after⟩

end

namespace Firewall

/-! ### How attempts go -/

section

variable {space name : String} {desired : Firewall} {t : Transcript world}

/-- How an attempt goes: a reading, and then the write that is needed. -/
inductive AttemptGoes (space name : String) (desired : Firewall) :
    Transcript world → Except UpsertError (Option WriteOperation) → Prop where
  /-- Where nothing can be read, nothing is written. -/
  | unread {t : Transcript world} {error : ApiError}
      (reads : (ApiCall.get? (some space) name : ApiCall (Option Firewall)).run.Goes t
        (.error error)) :
      AttemptGoes space name desired t (.error (.api error))
  /-- What is as it should be is left as it is. -/
  | settled {t : Transcript world} {current : Firewall}
      (reads : (ApiCall.get? (some space) name : ApiCall (Option Firewall)).run.Goes t
        (.ok (some current)))
      (merges : current.merge desired = none) :
      AttemptGoes space name desired t (.ok (some .unchanged))
  /-- Where there is none, the desired configuration is created. -/
  | created {reading writing : Transcript world} {stored : Except ApiError Firewall}
      {ended : Except UpsertError (Option WriteOperation)}
      (reads : (ApiCall.get? (some space) name : ApiCall (Option Firewall)).run.Goes reading
        (.ok none))
      (creates : (ApiCall.create (some space) (ApiCall.writtenBy controllerName) desired).run.Goes
        writing stored)
      (ends : attemptEnd .created stored = ended) :
      AttemptGoes space name desired (reading ++ writing) ended
  /-- What is there is replaced by what it is merged to. -/
  | replaced {reading writing : Transcript world} {current updated : Firewall}
      {stored : Except ApiError Firewall} {ended : Except UpsertError (Option WriteOperation)}
      (reads : (ApiCall.get? (some space) name : ApiCall (Option Firewall)).run.Goes reading
        (.ok (some current)))
      (merges : current.merge desired = some updated)
      (replaces : (ApiCall.replace (some space) name (ApiCall.writtenBy controllerName)
        updated).run.Goes writing stored)
      (ends : attemptEnd .updated stored = ended) :
      AttemptGoes space name desired (reading ++ writing) ended

/-- An attempt goes in one of these ways, and in no other. -/
theorem goes_attempt_iff {ended : Except UpsertError (Option WriteOperation)} :
    (attempt space name desired).run.Goes t ended ↔ AttemptGoes space name desired t ended := by
  unfold attempt
  rw [ExceptT.run_mk, Program.bind_eq_bind, Program.goes_bind]
  constructor
  · rintro ⟨reading, writing, found, rfl, reads, goes⟩
    rcases found with error | (_ | current)
    · obtain ⟨rfl, rfl⟩ := goes
      rw [List.append_nil]
      exact .unread reads
    · obtain ⟨stored, creates, ends⟩ := Program.goes_map.1 goes
      exact .created reads creates ends
    · cases merges : current.merge desired with
      | none =>
        simp only [merges] at goes
        obtain ⟨rfl, rfl⟩ := goes
        rw [List.append_nil]
        exact .settled reads merges
      | some updated =>
        simp only [merges] at goes
        obtain ⟨stored, replaces, ends⟩ := Program.goes_map.1 goes
        exact .replaced reads merges replaces ends
  · intro goes
    cases goes with
    | unread reads => exact ⟨_, [], _, (List.append_nil _).symm, reads, rfl, rfl⟩
    | settled reads merges =>
      refine ⟨_, [], _, (List.append_nil _).symm, reads, ?_⟩
      simp only [merges]
      exact ⟨rfl, rfl⟩
    | created reads creates ends =>
      exact ⟨_, _, _, rfl, reads, Program.goes_map.2 ⟨_, creates, ends⟩⟩
    | replaced reads merges replaces ends =>
      refine ⟨_, _, _, rfl, reads, ?_⟩
      simp only [merges]
      exact Program.goes_map.2 ⟨_, replaces, ends⟩

/-- A write ends an attempt with an operation just where it is that operation and succeeds. -/
theorem attemptEnd_eq_some_iff {operation other : WriteOperation}
    {result : Except ApiError Firewall} :
    attemptEnd operation result = .ok (some other) ↔
      operation = other ∧ ∃ stored, result = .ok stored := by
  cases result with
  | ok stored => simp [attemptEnd]
  | error error => cases isConflict : error.isConflict <;> simp [attemptEnd, isConflict]

/-- Attempts go as the first one, with its end, or as others after it if it came too late. -/
theorem goes_upsertWithin_succ {attempts : Nat} {result : Except UpsertError WriteOperation} :
    (upsertWithin space name desired (attempts + 1)).run.Goes t result ↔
      (attempt space name desired).run.Goes t (result.map some) ∨
        ∃ first later, t = first ++ later ∧
          (attempt space name desired).run.Goes first (.ok none) ∧
          (upsertWithin space name desired attempts).run.Goes later result := by
  rw [upsertWithin, ExceptT.run_bind, Program.bind_eq_bind, Program.goes_bind]
  constructor
  · rintro ⟨first, later, ended, rfl, tries, goes⟩
    rcases ended with error | (_ | operation)
    · obtain ⟨rfl, rfl⟩ := goes
      rw [List.append_nil]
      exact .inl tries
    · exact .inr ⟨first, later, rfl, tries, goes⟩
    · obtain ⟨rfl, rfl⟩ := goes
      rw [List.append_nil]
      exact .inl tries
  · rintro (tries | ⟨first, later, rfl, tries, goes⟩)
    · refine ⟨t, [], _, (List.append_nil t).symm, tries, ?_⟩
      cases result <;> exact ⟨rfl, rfl⟩
    · exact ⟨first, later, _, rfl, tries, goes⟩

end

/-! ### What attempts leave -/

variable {space : String} {desired : Firewall} {t : Transcript world}

/-- Whether requests that change no status leave the desired configuration in force, if writing it
is done, and were in vain otherwise. -/
structure Leaves (space : String) (desired : Firewall) (made : List Sent) (isDone : Bool) :
    Prop where
  noStatus : ∀ e ∈ made, e.request.isStatusPatch = false
  done : isDone → InForce space desired made
  failed : isDone = false → InVain desired made

/-- Nothing sent leaves nothing done. -/
theorem Leaves.nothing : Leaves space desired [] false where
  noStatus := List.forall_mem_nil _
  done := nofun
  failed _ := List.forall_mem_nil _

/-- A request that writes the desired configuration leaves it in force just where the reply says
so. -/
theorem Leaves.write {write : Sent} (noStatus : write.request.isStatusPatch = false)
    (noRead : write.request.readsFirewall = false)
    (writes : write.request = createRequest space desired ∨ ∃ current : Firewall,
      write.request = replaceRequest space desired.metadata.displayName
        (current.overlay desired)) :
    Leaves space desired [write] (write.reply.read Firewall.decode).toBool where
  noStatus := List.forall_mem_singleton.2 noStatus
  done isDone := by
    cases reads : write.reply.read Firewall.decode with
    | error error =>
      rw [reads] at isDone
      cases isDone
    | ok stored => exact .inl ⟨write, List.mem_cons_self, writes, stored, reads⟩
  failed isFailed := by
    refine List.forall_mem_singleton.2 ⟨?_, ?_⟩
    · rintro ⟨_, stored, isStored⟩
      rw [isStored] at isFailed
      cases isFailed
    · rintro ⟨isRead, _⟩
      cases noRead.symm.trans isRead

/-- What failed before matters neither to what is done later nor to what fails later. -/
theorem Leaves.append {first later : List Sent} {isDone : Bool}
    (before : Leaves space desired first false) (after : Leaves space desired later isDone) :
    Leaves space desired (first ++ later) isDone where
  noStatus := List.forall_mem_append.2 ⟨before.noStatus, after.noStatus⟩
  done isDone := (after.done isDone).append_left
  failed isFailed := (before.failed rfl).append (after.failed isFailed)

/-- Whether an attempt to write was the last one: it ended with an operation. -/
def isLastAttempt : Except UpsertError (Option WriteOperation) → Bool
  | .ok (some _) => true
  | .ok none | .error _ => false

/-- The end of an attempt by a write is an operation just where the write succeeded. -/
theorem isLastAttempt_attemptEnd (operation : WriteOperation) (result : Except ApiError Firewall) :
    isLastAttempt (attemptEnd operation result) = result.toBool := by
  cases result with
  | ok stored => rfl
  | error error =>
    simp only [attemptEnd]
    split <;> rfl

/-- The request that reads a firewall configuration does so. -/
theorem readsFirewall_readRequest (space name : String) :
    (ApiCall.readRequest Firewall space name).readsFirewall := by
  simp only [Request.readsFirewall, ApiCall.readRequest, Endpoint.concerns, Endpoint.objects?,
    Option.any_some, decide_eq_true_eq, true_and]
  rfl

/-- A reading leaves the desired configuration in force where it finds it so. -/
theorem read_goes {name : String} {found : Except ApiError (Option Firewall)}
    (goes : (ApiCall.get? (some space) name : ApiCall (Option Firewall)).run.Goes t found) :
    (∀ current, found = .ok (some current) → current.merge desired = none →
      Leaves space desired (Transcript.sent t) true) ∧
    ((∀ current, found = .ok (some current) → current.merge desired ≠ none) →
      Leaves space desired (Transcript.sent t) false) := by
  rcases ApiCall.goes_get? goes with ⟨rfl, fault, rfl⟩ | ⟨reply, rfl, rfl⟩
  · exact ⟨fun _ found => (nomatch found), fun _ => .nothing⟩
  have noStatus : ∀ e ∈ [(⟨ApiCall.readRequest Firewall space name, reply⟩ : Sent)],
      e.request.isStatusPatch = false := List.forall_mem_singleton.2 rfl
  constructor
  · intro current found merges
    have reads := ApiCall.eq_of_absenceIsNone found
    have isRead := readsFirewall_readRequest space name
    refine ⟨noStatus, fun _ => .inr ⟨⟨_, reply⟩, ?_, isRead, current, reads, merges⟩, nofun⟩
    simp only [Transcript.sent_cons_sent, Transcript.sent_nil, List.filter_cons, isRead, if_true]
    rfl
  · intro noMatch
    refine ⟨noStatus, nofun, fun _ => List.forall_mem_singleton.2 ⟨?_, ?_⟩⟩
    · rintro ⟨isWrite, _⟩
      simp [Request.storesFirewall, ApiCall.readRequest] at isWrite
    · rintro ⟨_, current, reads, merges⟩
      exact noMatch current (congrArg ApiCall.absenceIsNone reads) merges

/-- A reading that finds no configuration leaves nothing done. -/
theorem read_goes_absent {name : String}
    (goes : (ApiCall.get? (some space) name : ApiCall (Option Firewall)).run.Goes t (.ok none)) :
    Leaves space desired (Transcript.sent t) false :=
  (read_goes goes).2 fun _ found => nomatch found

/-- A reading that finds a configuration which is to be replaced leaves nothing done. -/
theorem read_goes_differing {name : String} {current updated : Firewall}
    (goes : (ApiCall.get? (some space) name : ApiCall (Option Firewall)).run.Goes t
      (.ok (some current))) (merges : current.merge desired = some updated) :
    Leaves space desired (Transcript.sent t) false := by
  refine (read_goes goes).2 ?_
  rintro _ ⟨⟩ unchanged
  cases merges.symm.trans unchanged

/-- A creation of the desired configuration leaves it in force where it succeeds. -/
theorem create_goes {stored : Except ApiError Firewall}
    (goes : (ApiCall.create (some space) (ApiCall.writtenBy controllerName) desired).run.Goes t
      stored) : Leaves space desired (Transcript.sent t) stored.toBool := by
  rcases ApiCall.goes_send goes with ⟨_, _, rfl, rfl⟩ | ⟨reply, rfl, rfl⟩
  · exact .nothing
  · exact .write rfl rfl (.inl rfl)

/-- A replacement by the desired configuration, laid over another one, leaves it in force where it
succeeds. -/
theorem replace_goes {current : Firewall} {stored : Except ApiError Firewall}
    (goes : (ApiCall.replace (some space) desired.metadata.displayName
      (ApiCall.writtenBy controllerName) (current.overlay desired)).run.Goes t stored) :
    Leaves space desired (Transcript.sent t) stored.toBool := by
  rcases ApiCall.goes_byName_send goes with ⟨rfl, _, rfl⟩ | ⟨reply, rfl, rfl⟩
  · exact .nothing
  · exact .write rfl rfl (.inr ⟨current, rfl⟩)

/-- An attempt leaves the desired configuration in force where it ends with an operation. -/
theorem attempt_goes {ended : Except UpsertError (Option WriteOperation)}
    (goes : (attempt space desired.metadata.displayName desired).run.Goes t ended) :
    Leaves space desired (Transcript.sent t) (isLastAttempt ended) := by
  cases goes_attempt_iff.1 goes with
  | unread reads => exact (read_goes reads).2 fun _ found => nomatch found
  | settled reads merges => exact (read_goes reads).1 _ rfl merges
  | created reads creates ends =>
    rw [Transcript.sent_append, ← ends, isLastAttempt_attemptEnd]
    exact (read_goes_absent reads).append (create_goes creates)
  | replaced reads merges replaces ends =>
    have vain := read_goes_differing reads merges
    obtain rfl := merge_eq_some merges
    rw [Transcript.sent_append, ← ends, isLastAttempt_attemptEnd]
    exact vain.append (replace_goes replaces)

/-- Attempts leave the desired configuration in force where they end with an operation. -/
theorem upsertWithin_goes {attempts : Nat} {ended : Except UpsertError WriteOperation}
    (goes : (upsertWithin space desired.metadata.displayName desired attempts).run.Goes t ended) :
    Leaves space desired (Transcript.sent t) ended.toBool := by
  induction attempts generalizing t with
  | zero =>
    obtain ⟨rfl, rfl⟩ := goes
    exact .nothing
  | succ attempts ih =>
    rcases goes_upsertWithin_succ.1 goes with tries | ⟨first, later, rfl, tries, goes⟩
    · have attempted := attempt_goes tries
      cases ended <;> exact attempted
    · rw [Transcript.sent_append]
      exact (attempt_goes tries).append (ih goes)

/-- Writing the desired configuration leaves it in force where it ends with an operation; where it
fails, nothing was stored and nothing found as it should be. -/
theorem upsert_goes {ended : Except UpsertError WriteOperation}
    (goes : (desired.upsert space).run.Goes t ended) :
    Leaves space desired (Transcript.sent t) ended.toBool := upsertWithin_goes goes

end Firewall

end PeerFirewall
