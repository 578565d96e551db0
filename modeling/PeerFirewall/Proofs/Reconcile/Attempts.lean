import PeerFirewall.Proofs.Api.Address
import PeerFirewall.Proofs.Reconcile.InForce

/-!
# Which attempts a write takes

The desired configuration is written by attempts. Each of them reads the configuration and makes the
write that is needed then, if one is; another attempt is made while a write comes too late, five in
all. So the replies settle what is sent and what is reported (`Firewall.upsert_attempts`).
-/
namespace PeerFirewall

/-- The method of the request that a write is done by. -/
def WriteOperation.method? : WriteOperation → Option Method
  | created => some .post
  | updated => some .put
  | unchanged => none

/-- A call that fails although absence is an answer failed in the same way. -/
theorem ApiCall.eq_of_absenceIsNone_error {α : Type} {result : Except ApiError α}
    {error : ApiError} (found : absenceIsNone result = .error error) : result = .error error := by
  cases result with
  | ok a => cases found
  | error fault =>
    cases fault with
    | refused refusal =>
      simp only [absenceIsNone] at found
      split at found <;> cases found
      rfl
    | undecodable fault => exact congrArg Except.error (Except.error.inj found)
    | unsent fault => exact congrArg Except.error (Except.error.inj found)

namespace Firewall

variable {space : String} {desired : Firewall} {t : Transcript world}

/-! ### Calls -/

/-- A request that was to be sent, with its reply, or why it makes no address. -/
structure Call where
  request : Request
  reply : Except UriFault Reply

namespace Call

/-- Whether the request makes an address and was sent, or makes none and was not, for the reason
given. -/
def IsMade (call : Call) : Prop :=
  match call.reply with
  | .ok _ => call.request.IsSendable
  | .error fault => call.request.uri? = .error fault

/-- What was asked for a call. -/
def steps (call : Call) : Transcript world :=
  match call.reply with
  | .ok reply => [WorldStep.sent call.request reply]
  | .error _ => []

/-- What a call came to. -/
def result (call : Call) : Except ApiError Firewall :=
  match call.reply with
  | .ok reply => reply.read decode
  | .error fault => .error (.unsent (.badAddress fault))

/-- Whether a call came too late. -/
def isConflict (call : Call) : Bool :=
  match call.result with
  | .ok _ => false
  | .error error => error.isConflict

/-- Two calls are made if each is. -/
theorem isMade_pair {read write : Call} (isMade : read.IsMade) (isMadeToo : write.IsMade) :
    ∀ call ∈ [read, write], call.IsMade :=
  List.forall_mem_cons.2 ⟨isMade, List.forall_mem_singleton.2 isMadeToo⟩

/-- A write ends with nothing just where it comes too late. -/
theorem attemptEnd_eq_none_iff {operation : WriteOperation} {write : Call} :
    attemptEnd operation write.result = .ok none ↔ write.isConflict := by
  unfold isConflict
  cases write.result with
  | ok stored => simp [attemptEnd]
  | error error => cases isConflict : error.isConflict <;> simp [attemptEnd, isConflict]

/-- A write fails just where it fails in another way than by coming too late. -/
theorem attemptEnd_eq_error_iff {operation : WriteOperation} {write : Call} {error : UpsertError} :
    attemptEnd operation write.result = .error error ↔
      ∃ fault, write.result = .error fault ∧ error = .api fault ∧ fault.isConflict = false := by
  cases write.result with
  | ok stored => simp [attemptEnd]
  | error fault =>
    cases isConflict : fault.isConflict <;> simp [attemptEnd, isConflict, eq_comm (a := error)]

end Call

/-- A request about a firewall configuration goes as its call does. -/
theorem goes_exchange_iff {request : Request} {result : Except ApiError Firewall} :
    (ApiCall.exchange decode request).run.Goes t result ↔
      ∃ call : Call, call.request = request ∧ call.IsMade ∧ t = call.steps ∧
        result = call.result := by
  unfold ApiCall.exchange ApiCall.send
  constructor
  · intro goes
    cases address : request.uri? with
    | error fault =>
      rw [address] at goes
      obtain ⟨rfl, rfl⟩ := goes
      exact ⟨⟨request, .error fault⟩, rfl, address, rfl, rfl⟩
    | ok uri =>
      rw [address] at goes
      obtain ⟨reply, _, rfl, rfl, rfl⟩ := goes
      exact ⟨⟨request, .ok reply⟩, rfl, ⟨uri, address⟩, rfl, rfl⟩
  · rintro ⟨⟨_, reply⟩, rfl, isMade, rfl, rfl⟩
    cases reply with
    | error fault =>
      have noAddress : Request.uri? _ = .error fault := isMade
      rw [noAddress]
      exact ⟨rfl, rfl⟩
    | ok reply =>
      obtain ⟨uri, address⟩ := isMade
      rw [address]
      exact ⟨reply, [], rfl, rfl, rfl⟩

/-- A reading of the configuration goes as its call does. -/
theorem goes_get?_iff {name : String} (named : name ≠ "")
    {found : Except ApiError (Option Firewall)} :
    (ApiCall.get? (some space) name : ApiCall (Option Firewall)).run.Goes t found ↔
      ∃ call : Call, call.request = ApiCall.readRequest Firewall space name ∧ call.IsMade ∧
        t = call.steps ∧ found = ApiCall.absenceIsNone call.result := by
  have reads : (ApiCall.get? (some space) name : ApiCall (Option Firewall)).run =
      ApiCall.absenceIsNone <$>
        (ApiCall.exchange decode (ApiCall.readRequest Firewall space name)).run := by
    simp only [ApiCall.get?, ApiCall.get, ApiCall.byName, if_neg named]
    rfl
  rw [reads, Program.goes_map]
  simp only [goes_exchange_iff]
  constructor
  · rintro ⟨_, ⟨call, isRead, isMade, rfl, rfl⟩, rfl⟩
    exact ⟨call, isRead, isMade, rfl, rfl⟩
  · rintro ⟨call, isRead, isMade, rfl, rfl⟩
    exact ⟨_, ⟨call, isRead, isMade, rfl, rfl⟩, rfl⟩

/-- A replacement of the configuration goes as its call does. -/
theorem goes_replace_iff {name : String} (named : name ≠ "") {updated : Firewall}
    {stored : Except ApiError Firewall} :
    (ApiCall.replace (some space) name (ApiCall.writtenBy controllerName) updated).run.Goes t
        stored ↔
      ∃ call : Call, call.request = replaceRequest space name updated ∧ call.IsMade ∧
        t = call.steps ∧ stored = call.result := by
  rw [ApiCall.replace, ApiCall.byName, if_neg named]
  exact goes_exchange_iff

/-! ### Attempts -/

/-- An attempt: a reading, and a write if one was needed. -/
structure Attempt where
  read : Call
  write : Option Call

namespace Attempt

/-- The calls of an attempt. -/
def calls (attempt : Attempt) : List Call := attempt.read :: attempt.write.toList

/-- The last call of an attempt. -/
def lastCall (attempt : Attempt) : Call := attempt.write.getD attempt.read

/-- What was asked for an attempt. -/
def steps (attempt : Attempt) : Transcript world := attempt.calls.flatMap Call.steps

/-- What was asked for an attempt without a write. -/
theorem steps_alone {read : Call} : (⟨read, none⟩ : Attempt).steps = read.steps := by
  simp [steps, calls]

/-- What was asked for an attempt with a write. -/
theorem steps_pair {read write : Call} :
    (⟨read, some write⟩ : Attempt).steps = read.steps ++ write.steps := by
  simp [steps, calls]

/-- What was found: a configuration, or that there is none. -/
def found (attempt : Attempt) : Except ApiError (Option Firewall) :=
  ApiCall.absenceIsNone attempt.read.result

/-- Whether the write of an attempt came too late. -/
def isLate (attempt : Attempt) : Bool := attempt.write.any (·.isConflict)

/-- Whether the write of an attempt is the one that is needed after its reading. -/
inductive WritesNeeded (space : String) (desired : Firewall) : Attempt → Prop where
  /-- Where nothing can be read, nothing is written. -/
  | unread {read : Call} {error : ApiError} (found : Attempt.found ⟨read, none⟩ = .error error) :
      WritesNeeded space desired ⟨read, none⟩
  /-- What is as it should be is left as it is. -/
  | settled {read : Call} {current : Firewall}
      (found : Attempt.found ⟨read, none⟩ = .ok (some current))
      (merges : current.merge desired = none) : WritesNeeded space desired ⟨read, none⟩
  /-- Where there is none, the desired configuration is created. -/
  | created {read write : Call} (found : Attempt.found ⟨read, some write⟩ = .ok none)
      (writes : write.request = createRequest space desired) :
      WritesNeeded space desired ⟨read, some write⟩
  /-- What is there is replaced by what it is merged to, as of the version that was read. -/
  | replaced {read write : Call} {current updated : Firewall}
      (found : Attempt.found ⟨read, some write⟩ = .ok (some current))
      (merges : current.merge desired = some updated)
      (version : updated.metadata.resourceVersion = current.metadata.resourceVersion)
      (writes : write.request = replaceRequest space desired.metadata.displayName updated) :
      WritesNeeded space desired ⟨read, some write⟩

/-- Whether an attempt reads the configuration by its name and makes the write that is needed. -/
structure Follows (space : String) (desired : Firewall) (attempt : Attempt) : Prop where
  reads : attempt.read.request = ApiCall.readRequest Firewall space desired.metadata.displayName
  writes : attempt.WritesNeeded space desired
  isMade : ∀ call ∈ attempt.calls, call.IsMade

/-- How an attempt ended: with an operation, or with nothing if its write came too late. -/
def ended (attempt : Attempt) : Except UpsertError (Option WriteOperation) :=
  match attempt.found, attempt.write with
  | .error error, _ => .error (.api error)
  | .ok none, some write => attemptEnd .created write.result
  | .ok (some _), some write => attemptEnd .updated write.result
  | .ok _, none => .ok (some .unchanged)

end Attempt

/-- An attempt goes as one that makes the write that is needed. -/
theorem attempt_goes_iff (named : desired.metadata.displayName ≠ "")
    {ended : Except UpsertError (Option WriteOperation)} :
    (attempt space desired.metadata.displayName desired).run.Goes t ended ↔
      ∃ attempt : Attempt, attempt.Follows space desired ∧ t = attempt.steps ∧
        ended = attempt.ended := by
  rw [goes_attempt_iff]
  constructor
  · intro goes
    cases goes with
    | unread reads =>
      obtain ⟨read, isRead, isMade, rfl, found⟩ := (goes_get?_iff named).1 reads
      exact ⟨⟨read, none⟩, ⟨isRead, .unread found.symm, List.forall_mem_singleton.2 isMade⟩,
        Attempt.steps_alone.symm, by simp [Attempt.ended, Attempt.found, ← found]⟩
    | settled reads merges =>
      obtain ⟨read, isRead, isMade, rfl, found⟩ := (goes_get?_iff named).1 reads
      exact ⟨⟨read, none⟩,
        ⟨isRead, .settled found.symm merges, List.forall_mem_singleton.2 isMade⟩,
        Attempt.steps_alone.symm, by simp [Attempt.ended, Attempt.found, ← found]⟩
    | created reads creates ends =>
      obtain ⟨read, isRead, isMade, rfl, found⟩ := (goes_get?_iff named).1 reads
      obtain ⟨write, writes, isMadeToo, rfl, rfl⟩ := goes_exchange_iff.1 creates
      exact ⟨⟨read, some write⟩,
        ⟨isRead, .created found.symm writes, Call.isMade_pair isMade isMadeToo⟩,
        Attempt.steps_pair.symm, by simp [Attempt.ended, Attempt.found, ← found, ends]⟩
    | @replaced _ _ current updated _ _ reads merges replaces ends =>
      obtain ⟨read, isRead, isMade, rfl, found⟩ := (goes_get?_iff named).1 reads
      obtain ⟨write, writes, isMadeToo, rfl, rfl⟩ := (goes_replace_iff named).1 replaces
      have version : updated.metadata.resourceVersion = current.metadata.resourceVersion := by
        obtain rfl := merge_eq_some merges
        rfl
      exact ⟨⟨read, some write⟩, ⟨isRead, .replaced found.symm merges version writes,
        Call.isMade_pair isMade isMadeToo⟩, Attempt.steps_pair.symm,
        by simp [Attempt.ended, Attempt.found, ← found, ends]⟩
  · rintro ⟨attempt, ⟨isRead, writes, isMade⟩, rfl, rfl⟩
    have reads {found : Except ApiError (Option Firewall)} (isFound : attempt.found = found) :
        (ApiCall.get? (some space) desired.metadata.displayName :
          ApiCall (Option Firewall)).run.Goes attempt.read.steps found :=
      (goes_get?_iff named).2
        ⟨attempt.read, isRead, isMade _ List.mem_cons_self, rfl, isFound.symm⟩
    cases writes with
    | unread found =>
      rw [Attempt.steps_alone, Attempt.ended, found]
      exact .unread (reads found)
    | settled found merges =>
      rw [Attempt.steps_alone, Attempt.ended, found]
      exact .settled (reads found) merges
    | created found writes =>
      have isWritten := isMade _ (List.mem_cons_of_mem _ List.mem_cons_self)
      rw [Attempt.steps_pair, Attempt.ended, found]
      exact .created (reads found) (goes_exchange_iff.2 ⟨_, writes, isWritten, rfl, rfl⟩) rfl
    | replaced found merges version writes =>
      have isWritten := isMade _ (List.mem_cons_of_mem _ List.mem_cons_self)
      rw [Attempt.steps_pair, Attempt.ended, found]
      exact .replaced (reads found) merges
        ((goes_replace_iff named).2 ⟨_, writes, isWritten, rfl, rfl⟩) rfl

/-- An attempt that makes the write that is needed ends with nothing just where the write comes too
late. -/
theorem Attempt.WritesNeeded.ended_eq_none_iff {attempt : Attempt}
    (writes : attempt.WritesNeeded space desired) : attempt.ended = .ok none ↔ attempt.isLate := by
  cases writes with
  | unread found => simp [ended, isLate, found]
  | settled found _ => simp [ended, isLate, found]
  | @created _ write found _ => simp [ended, isLate, found, Call.attemptEnd_eq_none_iff]
  | @replaced _ write _ _ found _ _ _ => simp [ended, isLate, found, Call.attemptEnd_eq_none_iff]

/-! ### Successions of attempts -/

/-- Whether attempts follow one another, that many at most: one is made after another just where the
write of that one came too late. -/
structure Succession (space : String) (desired : Firewall) (most : Nat)
    (attempts : List Attempt) : Prop where
  follow : ∀ attempt ∈ attempts, attempt.Follows space desired
  atMost : attempts.length ≤ most
  first : attempts ≠ [] ↔ 0 < most
  again : ∀ k attempt, attempts[k]? = some attempt →
    (k + 1 < attempts.length ↔ k + 1 < most ∧ attempt.isLate)

/-- Where no attempt may be made, none is. -/
theorem succession_zero {attempts : List Attempt} :
    Succession space desired 0 attempts ↔ attempts = [] := by
  constructor
  · intro succession
    exact List.length_eq_zero_iff.1 (Nat.le_zero.1 succession.atMost)
  · rintro rfl
    exact ⟨List.forall_mem_nil _, Nat.le_refl 0, by simp, fun _ _ found => by simp at found⟩

/-- Where an attempt may be made, one is, and others are made after it if it comes too late. -/
theorem succession_succ {most : Nat} {attempts : List Attempt} :
    Succession space desired (most + 1) attempts ↔
      ∃ attempt rest, attempts = attempt :: rest ∧ attempt.Follows space desired ∧
        if attempt.isLate then Succession space desired most rest else rest = [] := by
  constructor
  · intro succession
    obtain ⟨attempt, rest, rfl⟩ :=
      List.exists_cons_of_ne_nil (succession.first.2 most.succ_pos)
    obtain ⟨follows, follow⟩ := List.forall_mem_cons.1 succession.follow
    have again := succession.again 0 attempt rfl
    refine ⟨attempt, rest, rfl, follows, ?_⟩
    split
    · rename_i isLate
      refine ⟨follow, Nat.le_of_succ_le_succ succession.atMost, ?_, fun k later found => ?_⟩
      · simpa [isLate, List.length_pos_iff] using again
      · simpa using succession.again (k + 1) later found
    · rename_i isLate
      simpa [isLate] using again
  · rintro ⟨attempt, rest, rfl, follows, goesOn⟩
    split at goesOn
    · rename_i isLate
      refine ⟨List.forall_mem_cons.2 ⟨follows, goesOn.follow⟩,
        Nat.succ_le_succ goesOn.atMost, by simp, ?_⟩
      rintro (_ | k) later found
      · obtain rfl : attempt = later := by simpa using found
        simpa [isLate, List.length_pos_iff] using goesOn.first
      · simpa using goesOn.again k later found
    · rename_i isLate
      subst goesOn
      refine ⟨List.forall_mem_singleton.2 follows, by simp, by simp, ?_⟩
      rintro (_ | k) later found
      · obtain rfl : attempt = later := by simpa using found
        simp [isLate]
      · simp at found

/-- How attempts end, by how the last one ended. -/
def outcome (name : String) (attempts : List Attempt) : Except UpsertError WriteOperation :=
  match attempts.getLast?.map Attempt.ended with
  | some (.ok (some operation)) => .ok operation
  | some (.error error) => .error error
  | some (.ok none) | none => .error (.conflict name maxAttempts)

section

variable {name : String} {attempts : List Attempt} {last : Attempt}
  (isLast : attempts.getLast? = some last)

include isLast

/-- Attempts end with an operation just where the last one does. -/
theorem outcome_eq_ok_iff {operation : WriteOperation} :
    outcome name attempts = .ok operation ↔ last.ended = .ok (some operation) := by
  rw [outcome, isLast, Option.map_some]
  rcases last.ended with error | (_ | other) <;> simp

/-- Attempts end with an error just where the last one does, or comes too late. -/
theorem outcome_eq_error_iff {error : UpsertError} :
    outcome name attempts = .error error ↔ last.ended = .error error ∨
      last.ended = .ok none ∧ error = .conflict name maxAttempts := by
  rw [outcome, isLast, Option.map_some]
  rcases last.ended with fault | (_ | other) <;> simp [eq_comm]

end

/-- Attempts after one that came too late end as they do without it. -/
theorem outcome_cons {name : String} {attempt : Attempt} (isLate : attempt.ended = .ok none)
    (rest : List Attempt) : outcome name (attempt :: rest) = outcome name rest := by
  unfold outcome
  rw [List.getLast?_cons]
  cases rest.getLast? with
  | none => simp [isLate]
  | some last => rfl

/-- An attempt that did not come too late ends all attempts as it ends itself. -/
theorem eq_outcome_singleton_iff {name : String} {attempt : Attempt}
    {result : Except UpsertError WriteOperation} (inTime : attempt.ended ≠ .ok none) :
    result = outcome name [attempt] ↔ result.map some = attempt.ended := by
  simp only [outcome, List.getLast?_singleton, Option.map_some]
  rcases ended : attempt.ended with error | (_ | operation)
  · cases result <;> simp [Except.map]
  · exact absurd ended inTime
  · cases result <;> simp [Except.map]

/-- Attempts, that many at most, go as a succession of them and end as the last one does. -/
theorem upsertWithin_goes_iff (named : desired.metadata.displayName ≠ "") {most : Nat}
    {result : Except UpsertError WriteOperation} :
    (upsertWithin space desired.metadata.displayName desired most).run.Goes t result ↔
      ∃ attempts, Succession space desired most attempts ∧ t = attempts.flatMap Attempt.steps ∧
        result = outcome desired.metadata.displayName attempts := by
  induction most generalizing t with
  | zero =>
    simp only [succession_zero]
    constructor
    · rintro ⟨rfl, rfl⟩
      exact ⟨[], rfl, rfl, rfl⟩
    · rintro ⟨_, rfl, rfl, rfl⟩
      exact ⟨rfl, rfl⟩
  | succ most ih =>
    simp only [goes_upsertWithin_succ, attempt_goes_iff named, succession_succ]
    constructor
    · rintro (⟨attempt, follows, rfl, ended⟩ |
        ⟨_, later, rfl, ⟨attempt, follows, rfl, ended⟩, goes⟩)
      · have inTime : attempt.ended ≠ .ok none := by
          rw [← ended]
          cases result <;> simp [Except.map]
        refine ⟨_, ⟨attempt, [], rfl, follows, ?_⟩, by simp,
          (eq_outcome_singleton_iff inTime).2 ended⟩
        rw [if_neg (mt follows.writes.ended_eq_none_iff.2 inTime)]
      · have isLate := follows.writes.ended_eq_none_iff.1 ended.symm
        obtain ⟨rest, succession, rfl, rfl⟩ := ih.1 goes
        refine ⟨_, ⟨attempt, rest, rfl, follows, ?_⟩, by simp, (outcome_cons ended.symm rest).symm⟩
        rwa [if_pos isLate]
    · rintro ⟨_, ⟨attempt, rest, rfl, follows, goesOn⟩, rfl, rfl⟩
      have isLate := follows.writes.ended_eq_none_iff
      split at goesOn
      · rename_i late
        have ended := isLate.2 late
        exact .inr ⟨_, _, List.flatMap_cons, ⟨attempt, follows, rfl, ended.symm⟩,
          ih.2 ⟨rest, goesOn, rfl, outcome_cons ended rest⟩⟩
      · rename_i inTime
        subst goesOn
        exact .inl ⟨attempt, follows, by simp,
          (eq_outcome_singleton_iff (mt isLate.1 inTime)).1 rfl⟩

/-- Attempts come too late as often as they may be made just where the last one did. -/
theorem Succession.countP_isLate {most : Nat} {attempts : List Attempt}
    (succession : Succession space desired most attempts) :
    attempts.countP (·.isLate) = most ↔ ∀ last ∈ attempts.getLast?, last.isLate := by
  induction most generalizing attempts with
  | zero =>
    obtain rfl := succession_zero.1 succession
    simp
  | succ most ih =>
    obtain ⟨attempt, rest, rfl, _, goesOn⟩ := succession_succ.1 succession
    split at goesOn
    · rename_i isLate
      rw [List.countP_cons_of_pos isLate, Nat.add_right_cancel_iff, ih goesOn, List.getLast?_cons]
      cases rest.getLast? with
      | none => simp [isLate]
      | some last => simp
    · rename_i isLate
      subst goesOn
      simp [isLate]

/-! ### What attempts come to -/

namespace Attempt.Follows

variable {attempt : Attempt} (follows : attempt.Follows space desired)

include follows

/-- An attempt ends with a write just where its last call is that write, and succeeds. -/
theorem ended_eq_write_iff {operation : WriteOperation} {method : Method}
    (isWrite : operation.method? = some method) :
    attempt.ended = .ok (some operation) ↔ attempt.lastCall.request.method = method ∧
      ∃ stored, attempt.lastCall.result = .ok stored := by
  obtain ⟨reads, writes, -⟩ := follows
  cases operation with
  | unchanged => cases isWrite
  | created | updated =>
    obtain rfl := Option.some.inj isWrite
    cases writes with
    | @unread read _ found | @settled read _ found =>
      have method : read.request.method = .get := congrArg Request.method reads
      simp [ended, found, lastCall, method]
    | created found writes =>
      simp [ended, found, lastCall, writes, createRequest, attemptEnd_eq_some_iff]
    | replaced found _ _ writes =>
      simp [ended, found, lastCall, writes, replaceRequest, attemptEnd_eq_some_iff]

/-- An attempt leaves the configuration as it is just where it finds it as it should be. -/
theorem ended_eq_unchanged_iff :
    attempt.ended = .ok (some .unchanged) ↔
      ∃ current, attempt.found = .ok (some current) ∧ current.merge desired = none := by
  obtain ⟨-, writes, -⟩ := follows
  cases writes with
  | unread found => simp [ended, found]
  | settled found merges => simp [ended, found, merges]
  | @created _ write found _ => simp [ended, found, attemptEnd_eq_some_iff]
  | @replaced _ write _ _ found merges _ _ =>
    simp [ended, found, merges, attemptEnd_eq_some_iff]

/-- Where an attempt fails, its last call does: a reading, or a write that did not come too late. -/
theorem eq_of_ended_error {error : UpsertError} (failed : attempt.ended = .error error) :
    ∃ fault, attempt.lastCall.result = .error fault ∧ error = .api fault ∧
      (attempt.lastCall.request.method = .get ∨ fault.isConflict = false) := by
  obtain ⟨reads, writes, -⟩ := follows
  cases writes with
  | @unread read fault found =>
    rw [ended, found] at failed
    cases failed
    have refused := ApiCall.eq_of_absenceIsNone_error found
    exact ⟨fault, refused, rfl, .inl (congrArg Request.method reads)⟩
  | settled found _ =>
    rw [ended, found] at failed
    cases failed
  | created found | replaced found =>
    rw [ended, found] at failed
    obtain ⟨fault, refused, isApi, isNoConflict⟩ := Call.attemptEnd_eq_error_iff.1 failed
    exact ⟨fault, refused, isApi, .inr isNoConflict⟩

end Attempt.Follows

/-- The last call of attempts is the last one of the last attempt. -/
theorem getLast?_calls (attempts : List Attempt) :
    (attempts.flatMap Attempt.calls).getLast? = attempts.getLast?.map Attempt.lastCall := by
  rcases List.eq_nil_or_concat attempts with rfl | ⟨before, ⟨read, write⟩, rfl⟩
  · rfl
  · cases write <;> simp [Attempt.calls, Attempt.lastCall]

/-- What attempts come to, by their last requests. -/
structure ComesTo (desired : Firewall) (attempts : List Attempt)
    (result : Except UpsertError WriteOperation) : Prop where
  created : result = .ok .created ↔ ∃ call ∈ (attempts.flatMap Attempt.calls).getLast?,
    call.request.method = .post ∧ ∃ stored, call.result = .ok stored
  updated : result = .ok .updated ↔ ∃ call ∈ (attempts.flatMap Attempt.calls).getLast?,
    call.request.method = .put ∧ ∃ stored, call.result = .ok stored
  unchanged : result = .ok .unchanged ↔ ∃ last ∈ attempts.getLast?,
    ∃ current, last.found = .ok (some current) ∧ current.merge desired = none
  conflict : result = .error (.conflict desired.metadata.displayName 5) ↔
    attempts.countP (·.isLate) = 5
  failed : ∀ error, result = .error error →
    error = .conflict desired.metadata.displayName 5 ∨
      ∃ call ∈ (attempts.flatMap Attempt.calls).getLast?, ∃ fault, call.result = .error fault ∧
        error = .api fault ∧ (call.request.method = .get ∨ fault.isConflict = false)

/-- Attempts come to one result only. -/
theorem ComesTo.unique {attempts : List Attempt} {result other : Except UpsertError WriteOperation}
    (comes : ComesTo desired attempts result) (comesToo : ComesTo desired attempts other) :
    result = other := by
  cases result with
  | ok operation =>
    cases operation with
    | created => exact (comesToo.created.2 (comes.created.1 rfl)).symm
    | updated => exact (comesToo.updated.2 (comes.updated.1 rfl)).symm
    | unchanged => exact (comesToo.unchanged.2 (comes.unchanged.1 rfl)).symm
  | error error =>
    cases other with
    | ok operation =>
      cases operation with
      | created => exact comes.created.2 (comesToo.created.1 rfl)
      | updated => exact comes.updated.2 (comesToo.updated.1 rfl)
      | unchanged => exact comes.unchanged.2 (comesToo.unchanged.1 rfl)
    | error errorToo =>
      rcases comes.failed error rfl with rfl | ⟨call, isLast, fault, refused, rfl, _⟩
      · exact (comesToo.conflict.2 (comes.conflict.1 rfl)).symm
      · rcases comesToo.failed errorToo rfl with rfl | ⟨_, isLastToo, faultToo, refusedToo, rfl, _⟩
        · exact comes.conflict.2 (comesToo.conflict.1 rfl)
        · obtain rfl := Option.mem_unique isLast isLastToo
          cases refused.symm.trans refusedToo
          rfl

/-- Attempts, five at most, come to how the last one ended. -/
theorem Succession.comesTo {attempts : List Attempt}
    (succession : Succession space desired 5 attempts) :
    ComesTo desired attempts (outcome desired.metadata.displayName attempts) := by
  obtain ⟨last, isLast⟩ : ∃ last, attempts.getLast? = some last :=
    Option.ne_none_iff_exists'.1 (by simpa using succession.first.2 (by decide))
  have follows := succession.follow last (List.mem_of_getLast? isLast)
  have isLate := follows.writes.ended_eq_none_iff
  have lateFive := succession.countP_isLate
  simp only [isLast, Option.mem_some_iff, forall_eq', ← isLate] at lateFive
  have lastCall : (attempts.flatMap Attempt.calls).getLast? = some last.lastCall := by
    rw [getLast?_calls, isLast, Option.map_some]
  constructor
  · simp only [outcome_eq_ok_iff isLast, lastCall, Option.mem_some_iff, exists_eq_left']
    exact follows.ended_eq_write_iff rfl
  · simp only [outcome_eq_ok_iff isLast, lastCall, Option.mem_some_iff, exists_eq_left']
    exact follows.ended_eq_write_iff rfl
  · simp only [outcome_eq_ok_iff isLast, follows.ended_eq_unchanged_iff, isLast,
      Option.mem_some_iff, exists_eq_left']
  · rw [outcome_eq_error_iff isLast, lateFive]
    constructor
    · rintro (failed | ⟨isLate, _⟩)
      · obtain ⟨_, _, isApi, _⟩ := follows.eq_of_ended_error failed
        cases isApi
      · exact isLate
    · exact fun isLate => .inr ⟨isLate, rfl⟩
  · intro error failed
    rcases (outcome_eq_error_iff isLast).1 failed with failed | ⟨_, isConflict⟩
    · exact .inr ⟨_, lastCall, follows.eq_of_ended_error failed⟩
    · exact .inl isConflict

/-- Writing a configuration takes five attempts at most, another one just where the write of the
one before came too late, and comes to what their last requests say. Whatever is replied, there is
one such course. -/
theorem upsert_attempts (space : String) (desired : Firewall)
    (named : desired.metadata.displayName ≠ "") (t : Transcript world)
    (result : Except UpsertError WriteOperation) :
    (desired.upsert space).run.Goes t result ↔
      ∃ attempts, Succession space desired 5 attempts ∧ t = attempts.flatMap Attempt.steps ∧
        ComesTo desired attempts result := by
  rw [upsert, maxAttempts, upsertWithin_goes_iff named]
  constructor
  · rintro ⟨attempts, succession, asked, rfl⟩
    exact ⟨attempts, succession, asked, succession.comesTo⟩
  · rintro ⟨attempts, succession, asked, comes⟩
    exact ⟨attempts, succession, asked, comes.unique succession.comesTo⟩

/-! ### A write that is overtaken -/

/-- Answers each request with the next of some replies, and with a failure after the last one. -/
def inTurn : (question : world.Question) → List Reply → world.Answer question × List Reply
  | .send _, replies => (replies.headD (Store.refusal 500 "InternalError"), replies.tail)
  | .clock, replies => ((⟨0, 0⟩ : Time.Instant), replies)
  | .look (.cidr _), replies => (.error ⟨"unknown", []⟩, replies)
  | .look (.pods _), replies => (.error ⟨"unknown", []⟩, replies)

/-- An empty configuration. -/
def plain : Firewall where
  metadata := { Metadata.empty with
    name := some "c-security-fabric"
    labels := some FabricLabel.firewallLabels }
  spec := ⟨⟨"cluster-security", .ipv4, [], []⟩⟩

/-- Replies by which somebody else creates the configuration after it was first read, and deletes it
again. -/
def overtaking : List Reply :=
  [Store.refusal 404 "NotFound", Store.refusal 409 "AlreadyExists", Store.refusal 404 "NotFound",
    Store.reply plain.encode]

/-- A creation that comes too late is followed by another attempt. -/
theorem upsert_attempts_overtaken :
    let t := (plain.upsert "n").run.transcript inTurn overtaking
    plain.metadata.displayName ≠ "" ∧ t.length = 4 ∧
      ∃ attempts, Succession "n" plain 5 attempts ∧ t = attempts.flatMap Attempt.steps ∧
        ComesTo plain attempts (.ok .created) := by
  have named : plain.metadata.displayName ≠ "" := by decide
  have ends : ((plain.upsert "n").run.run inTurn overtaking).1 = .ok .created := by
    decide +kernel
  have goes := Program.goes_run inTurn (plain.upsert "n").run overtaking
  rw [ends] at goes
  refine ⟨named, by decide +kernel, ?_⟩
  exact (upsert_attempts "n" plain named _ _).1 goes

end Firewall

end PeerFirewall
