import PeerFirewall.Proofs.Reconcile.Undisturbed

/-!
# Conditions of other types

Others may keep conditions of their own on the status of a policy. A pass takes them from the policy
that it fetches and writes them with its own condition, without asking that the policy is still as
it was fetched. So what is stored after the status is written are the conditions of when the policy
was fetched, whatever others have written since (`Setting.pass_otherConditions`).
-/
namespace PeerFirewall

namespace Policy

/-- The conditions on the status of a policy. -/
def conditions (policy : Policy) : List Condition := (policy.status.map (·.conditions)).getD []

/-- The conditions on the status of a policy that are not about the passes over it. -/
def otherConditions (policy : Policy) : List Condition :=
  policy.conditions.filter (·.type ≠ readyType)

/-- Whether a policy is as another one but for what the server notes down with every write and its
conditions of other types, none of which is taken away. -/
structure OthersChanged (policy changed : Policy) : Prop where
  metadata : changed.metadata = { policy.metadata with
    managedFields := changed.metadata.managedFields
    resourceVersion := changed.metadata.resourceVersion }
  spec : changed.spec = policy.spec
  ready : changed.conditions.filter (·.type = readyType) =
    policy.conditions.filter (·.type = readyType)
  kept : ∀ condition ∈ policy.otherConditions, ∃ later ∈ changed.otherConditions,
    later.type = condition.type

/-- A policy is as it is. -/
theorem OthersChanged.refl (policy : Policy) : policy.OthersChanged policy :=
  ⟨rfl, rfl, rfl, fun condition member => ⟨condition, member, rfl⟩⟩

/-- One change after the other is a change. -/
theorem OthersChanged.trans {first second third : Policy} (before : first.OthersChanged second)
    (after : second.OthersChanged third) : first.OthersChanged third where
  metadata := by rw [after.metadata, before.metadata]
  spec := after.spec.trans before.spec
  ready := after.ready.trans before.ready
  kept condition member := by
    obtain ⟨later, isLater, same⟩ := before.kept condition member
    obtain ⟨last, isLast, sameToo⟩ := after.kept later isLater
    exact ⟨last, isLast, sameToo.trans same⟩

end Policy

/-! ### What a pass asks of policies -/

/-- Whether a request is about no policy and changes no status. -/
structure Request.SparesPolicies (request : Request) : Prop where
  noStatus : request.isStatusPatch = false
  noPolicy : request.endpoint.concerns .policy = false

namespace WorldQuestion

/-- Whether a question is about no policy and changes no status. -/
def SparesPolicies : WorldQuestion → Prop
  | send request => request.SparesPolicies
  | clock | look _ => True

/-- Whether a question is about no policy and changes no status, or writes on the status of a policy
how a pass over it ended. -/
def Tells (space : String) (policy : Policy) : WorldQuestion → Prop
  | send request => request.SparesPolicies ∨ ∃ outcome now, request = policy.statusRequest space
      (.afterPass policy.status policy.metadata.generation outcome now)
  | clock | look _ => True

variable {question : WorldQuestion}

/-- What is about no policy tells nothing of it. -/
theorem SparesPolicies.tells (spares : question.SparesPolicies) (space : String)
    (policy : Policy) : question.Tells space policy := by
  cases question with
  | send request => exact .inl spares
  | clock | look query => trivial

/-- A look is about no policy. -/
theorem IsLook.sparesPolicies (looks : question.IsLook) : question.SparesPolicies := by
  cases question with
  | send request =>
    obtain ⟨isGet, noPolicy, _⟩ := looks
    exact ⟨by simp [Request.isStatusPatch, isGet], noPolicy⟩
  | clock | look query => trivial

end WorldQuestion

/-- The publication of an event is about no policy. -/
theorem ClusterEvent.sparesPolicies_request (event : ClusterEvent) :
    event.request.SparesPolicies where
  noStatus := event.isAside_request.noStatus
  noPolicy := by
    rw [Endpoint.concerns, event.objects?_request]
    exact decide_eq_false (show Kind.event ≠ .policy by decide)

namespace Setting

variable {setting : Setting} {space clusterId : String} {policy : Policy} {ledger : Ledger}

/-- Whether looking at the state of the cluster reads only, and reads neither policies nor firewall
configurations. -/
def LooksAway (setting : Setting) : Prop :=
  ∀ query, (setting.lookUp query).Asks WorldQuestion.IsLook

/-- Looks are aside. -/
theorem LooksAway.looksAside (looksAway : setting.LooksAway) : setting.LooksAside := fun query =>
  (looksAway query).imp fun _ => WorldQuestion.IsLook.isAside

/-- What a pass over a policy that is there to stay may ask tells how the pass ended, or nothing of
policies. -/
theorem MayAsk.tells {cache : EventCache} {question : WorldQuestion}
    (mayAsk : setting.MayAsk WorldQuestion.IsLook cache space policy question)
    (stays : policy.Stays) : question.Tells space policy := by
  have noPolicy : decide (Kind.firewall = .policy) = false := by decide
  cases mayAsk with
  | clock => trivial
  | look isLook => exact isLook.sparesPolicies.tells space policy
  | firewallRead | firewallCreated | firewallReplaced | firewallDeleted =>
    exact .inl ⟨rfl, noPolicy⟩
  | statusWritten _ _ outcome now => exact .inr ⟨outcome, now, rfl⟩
  | finalizersPatched _ others =>
    rcases others with unmarked | deleted
    · exact absurd unmarked stays.marked
    · exact absurd stays.kept deleted
  | announced content now =>
    exact .inl (ClusterEvent.sparesPolicies_request _)

/-- Dealing with a fetched policy that is there to stay tells how the pass over it ended. -/
theorem finalize_tells (looksAway : setting.LooksAway) (stays : policy.Stays) :
    ((setting.finalize space policy).run ledger).Asks (WorldQuestion.Tells space policy) :=
  (finalize_mayAsk looksAway).asks.imp fun _ mayAsk => mayAsk.tells stays

/-- Before a status is written that is the only one, none is. -/
theorem quiet_before {made between later : List Sent} {write : Sent}
    (once : (made.filter (·.request.isStatusPatch)).length ≤ 1)
    (sends : made = between ++ write :: later) (isStatus : write.request.isStatusPatch) :
    ∀ e ∈ between, e.request.isStatusPatch = false := by
  have none : (between.filter (·.request.isStatusPatch)).length = 0 := by
    rw [sends, List.filter_append, List.length_append, List.filter_cons, if_pos isStatus,
      List.length_cons] at once
    omega
  intro e member
  exact eq_false_of_ne_true (List.filter_eq_nil_iff.1 (List.length_eq_zero_iff.1 none) e member)

/-- A status that a pass writes is that of the policy that it has fetched, and since it fetched the
policy, the pass has asked nothing else of policies. -/
theorem pass_tells {queued fetched : Policy} {after : Ledger} {t rest : Transcript world}
    {result : Except PassError Action} {between later : List Sent} {write : Sent}
    (looksAway : setting.LooksAway)
    (goes : ((setting.pass queued).run ledger).Goes t (result, after))
    (isFetched : queued.Fetched space fetched t rest)
    (sends : Transcript.sent rest = between ++ write :: later)
    (isStatus : write.request.isStatusPatch) :
    (∃ outcome now, write.request = fetched.statusRequest space
      (.afterPass fetched.status fetched.metadata.generation outcome now)) ∧
    ∀ e ∈ between, e.request.SparesPolicies := by
  rcases pass_goes goes with unfetched | ⟨_, _, _, _, isFetchedToo, finalizes, _⟩
  · exact absurd isFetched (unfetched.unfetched space fetched rest)
  obtain ⟨rfl, rfl, rfl⟩ := isFetched.unique isFetchedToo
  have isSent : write ∈ Transcript.sent rest := by simp [sends]
  have stays : fetched.Stays := by
    by_contra gone
    cases (Transcript.sent_of_asks (finalize_leavesStatus looksAway.looksAside gone ledger)
      finalizes write isSent).symm.trans isStatus
  have tells := Transcript.sent_of_asks (finalize_tells looksAway stays) finalizes
  constructor
  · refine (tells write isSent).resolve_left fun spares => ?_
    cases spares.noStatus.symm.trans isStatus
  · obtain ⟨applied, applies, _⟩ := finalize_goes stays finalizes
    have quiet := quiet_before (applies.reports looksAway.looksAside).1 sends isStatus
    intro e member
    refine (tells e (by simp [sends, member])).resolve_right ?_
    rintro ⟨outcome, now, same⟩
    have isStatusToo : e.request.isStatusPatch := by
      rw [same]
      rfl
    cases (quiet e member).symm.trans isStatusToo

end Setting

/-! ### Others that write in between -/

namespace Server

/-- How a server goes on while it is sent requests and others write to it in between. -/
inductive Interleaved (others : Server → Server → Prop) : Server → List Sent → Server → Prop where
  /-- Nothing is sent any more. -/
  | done (server : Server) : Interleaved others server [] server
  /-- A request is served. -/
  | sent {server last : Server} {e : Sent} {later : List Sent}
      (goesOn : Interleaved others (server.serve e.request).2 later last) :
      Interleaved others server (e :: later) last
  /-- A request gets lost. -/
  | lost {server last : Server} {e : Sent} {later : List Sent}
      (goesOn : Interleaved others server later last) :
      Interleaved others server (e :: later) last
  /-- Others write something. -/
  | written {server changed last : Server} {made : List Sent} (writes : others server changed)
      (goesOn : Interleaved others changed made last) : Interleaved others server made last

/-- What a server comes to by serving requests. -/
def afterAll (server : Server) (made : List Sent) : Server :=
  made.foldl (fun server e => (server.serve e.request).2) server

/-- Where others write nothing, requests are served one after the other. -/
theorem Interleaved.alone (others : Server → Server → Prop) (server : Server) (made : List Sent) :
    Interleaved others server made (server.afterAll made) := by
  induction made generalizing server with
  | nil => exact .done server
  | cons e later ih => exact .sent (ih _)

/-- Whether others change only conditions of other types of the policy of a name, and take none of
them away. -/
def OthersWrite (space name : String) (server changed : Server) : Prop :=
  ∃ policy later, server.HasPolicy space name policy ∧ changed.HasPolicy space name later ∧
    policy.OthersChanged later

variable {server last : Server} {space name : String} {policy other : Policy} {made : List Sent}

/-- One policy is stored under a name at most. -/
theorem HasPolicy.unique (holds : server.HasPolicy space name policy)
    (holdsToo : server.HasPolicy space name other) : policy = other := by
  obtain ⟨members, stored, reads⟩ := holds
  obtain ⟨_, storedToo, readsToo⟩ := holdsToo
  cases stored.symm.trans storedToo
  exact Except.ok.inj (reads.symm.trans readsToo)

/-- A request that is about no policy leaves each as it is. -/
theorem HasPolicy.serve (holds : server.HasPolicy space name policy) {request : Request}
    (spares : request.SparesPolicies) :
    (server.serve request).2.HasPolicy space name policy := by
  refine holds.of_stored (stored_serve_of_ne fun isAbout => ?_)
  have noPolicy := spares.noPolicy
  rw [Endpoint.concerns, isAbout] at noPolicy
  cases noPolicy

/-- Where requests about no policy are served and others write nothing, each is left as it is. -/
theorem HasPolicy.undisturbed (holds : server.HasPolicy space name policy)
    (spares : ∀ e ∈ made, e.request.SparesPolicies)
    (undisturbed : Interleaved (fun _ _ => False) server made last) :
    last.HasPolicy space name policy := by
  induction undisturbed with
  | done => exact holds
  | sent goesOn ih =>
    obtain ⟨first, rest⟩ := List.forall_mem_cons.1 spares
    exact ih (holds.serve first) rest
  | lost goesOn ih => exact ih holds (List.forall_mem_cons.1 spares).2
  | written writes goesOn ih => exact writes.elim

/-- Where requests about no policy are served and others write conditions of other types, a policy
is there all along, and only such conditions of it change. -/
theorem HasPolicy.interleaved (holds : server.HasPolicy space name policy)
    (spares : ∀ e ∈ made, e.request.SparesPolicies)
    (interleaved : Interleaved (OthersWrite space name) server made last) :
    ∃ stored, last.HasPolicy space name stored ∧ policy.OthersChanged stored := by
  induction interleaved generalizing policy with
  | done => exact ⟨policy, holds, .refl policy⟩
  | sent goesOn ih =>
    obtain ⟨first, rest⟩ := List.forall_mem_cons.1 spares
    exact ih (holds.serve first) rest
  | lost goesOn ih => exact ih holds (List.forall_mem_cons.1 spares).2
  | written writes goesOn ih =>
    obtain ⟨before, later, isBefore, isLater, changes⟩ := writes
    obtain rfl := holds.unique isBefore
    obtain ⟨stored, isStored, changesToo⟩ := ih isLater spares
    exact ⟨stored, isStored, changes.trans changesToo⟩

end Server

namespace Policy

/-- The status after a pass takes the place of what is stored: the conditions of other types are
those of the policy that the pass has fetched. -/
theorem serve_afterPass (fetched : Policy) {server : Server} {space : String} {stored : Policy}
    (holds : server.HasPolicy space fetched.metadata.displayName stored) (outcome : Outcome)
    (now : Time.Instant) :
    ∃ written, (server.serve (fetched.statusRequest space
        (.afterPass fetched.status fetched.metadata.generation outcome now))).2.HasPolicy space
          fetched.metadata.displayName written ∧
      written.otherConditions = fetched.otherConditions := by
  obtain ⟨members, generation, served, reads⟩ := serve_statusRequest holds rfl
    (.afterPass fetched.status fetched.metadata.generation outcome now)
  refine ⟨_, ⟨members, ?_, reads⟩, PolicyStatus.others_afterPass ..⟩
  rw [served, Server.stored_set]

end Policy

namespace Setting

/-- Once a pass has written the status of a policy, the conditions of other types are those of when
it fetched the policy. So they are as they were just before if nobody else has changed them since,
and only then. -/
theorem pass_otherConditions (setting : Setting) (looksAway : setting.LooksAway)
    (queued fetched : Policy) (space : String) (ledger after : Ledger) (t rest : Transcript world)
    (result : Except PassError Action) (between later : List Sent) (write : Sent)
    (start server : Server) (goes : ((setting.pass queued).run ledger).Goes t (result, after))
    (isFetched : queued.Fetched space fetched t rest)
    (sends : Transcript.sent rest = between ++ write :: later)
    (isStatus : write.request.isStatusPatch)
    (found : start.HasPolicy space fetched.metadata.displayName fetched)
    (interleaved : start.Interleaved (Server.OthersWrite space fetched.metadata.displayName)
      between server) :
    ∃ stored written, server.HasPolicy space fetched.metadata.displayName stored ∧
      fetched.OthersChanged stored ∧
      (server.serve write.request).2.HasPolicy space fetched.metadata.displayName written ∧
      written.otherConditions = fetched.otherConditions ∧
      (written.otherConditions = stored.otherConditions ↔
        stored.otherConditions = fetched.otherConditions) ∧
      (start.Interleaved (fun _ _ => False) between server → stored = fetched) := by
  obtain ⟨⟨outcome, now, isWrite⟩, spares⟩ := pass_tells looksAway goes isFetched sends isStatus
  obtain ⟨stored, isStored, changes⟩ := found.interleaved spares interleaved
  obtain ⟨written, isWritten, same⟩ := fetched.serve_afterPass isStored outcome now
  refine ⟨stored, written, isStored, changes, isWrite ▸ isWritten, same, ?_, ?_⟩
  · rw [same]
    exact eq_comm
  · intro undisturbed
    exact isStored.unique (found.undisturbed spares undisturbed)

/-! ### A condition that is written in between -/

/-- A condition that another client keeps. -/
def enforced (status : ConditionStatus) : Condition := ⟨"Enforced", status, none, none, none, none⟩

/-- A policy without rules on whose status another client keeps a condition. -/
def kept (status : ConditionStatus) : Policy :=
  { marked "rules" "liqo-tenant-c" with status := some ⟨none, [enforced status]⟩ }

/-- A server that stores that policy and nothing else. -/
def keeping (status : ConditionStatus) : Server :=
  (⟨fun _ => none⟩ : Server).set (policyKey "liqo-tenant-c" "rules") (some (kept status).encode)

/-- The policy is stored. -/
theorem hasPolicy_keeping (status : ConditionStatus) :
    (keeping status).HasPolicy "liqo-tenant-c" "rules" (kept status) := by
  refine ⟨(kept status).encode.members, Server.stored_set .., ?_⟩
  cases status <;> decide +kernel

/-- The other client may change its condition. -/
theorem othersWrite_keeping (status changed : ConditionStatus) :
    Server.OthersWrite "liqo-tenant-c" "rules" (keeping status) (keeping changed) := by
  refine ⟨_, _, hasPolicy_keeping status, hasPolicy_keeping changed, rfl, rfl, ?_, ?_⟩
  · cases status <;> cases changed <;> decide
  · cases status <;> cases changed <;> decide

/-- What a pass over the policy does after it has fetched it. -/
def keptRest : Transcript world :=
  ((served.finalize "liqo-tenant-c" (kept .unknown)).run .fresh).transcript
    (answers (kept .unknown)) ()

/-- There is a pass that does so. -/
theorem pass_goes_kept :
    ∃ t result after, ((served.pass (kept .unknown)).run .fresh).Goes t (result, after) ∧
      (kept .unknown).Fetched "liqo-tenant-c" (kept .unknown) t keptRest := by
  have reads : (Store.reply (kept .unknown).encode).read Policy.decode = .ok (kept .unknown) := by
    decide +kernel
  exact served_goes rfl rfl reads (answers (kept .unknown)) ()

/-- The pass writes the status. -/
theorem sent_kept : ∃ between write later,
    Transcript.sent keptRest = between ++ write :: later ∧ write.request.isStatusPatch := by
  have tells : (Transcript.sent keptRest).any (·.request.isStatusPatch) := by decide +kernel
  obtain ⟨write, member, isStatus⟩ := List.any_eq_true.1 tells
  obtain ⟨between, later, sends⟩ := List.append_of_mem member
  exact ⟨between, write, later, sends, isStatus⟩

/-- The other client may change its condition before the pass writes the status. -/
theorem interleaved_keeping (between : List Sent) :
    (keeping .unknown).Interleaved (Server.OthersWrite "liqo-tenant-c" "rules") between
      ((keeping .true).afterAll between) :=
  .written (othersWrite_keeping .unknown .true) (.alone _ _ between)

/-- Once a pass has written the status of a policy that another client has changed its condition of
in between, the condition is as it was before. -/
theorem pass_otherConditions_kept :
    ∃ (server : Server) (write : Sent) (written : Policy), write.request.isStatusPatch ∧
      server.HasPolicy "liqo-tenant-c" "rules" (kept .true) ∧
      (server.serve write.request).2.HasPolicy "liqo-tenant-c" "rules" written ∧
      written.otherConditions = [enforced .unknown] := by
  obtain ⟨t, result, after, goes, isFetched⟩ := pass_goes_kept
  obtain ⟨between, write, later, sends, isStatus⟩ := sent_kept
  have looksAway : served.LooksAway := ClusterInfo.read_looks .standard
  obtain ⟨stored, written, isStored, _, isWritten, same, _⟩ := pass_otherConditions served
    looksAway (kept .unknown) (kept .unknown) "liqo-tenant-c" .fresh after
    t keptRest result between later write (keeping .unknown) ((keeping .true).afterAll between)
    goes isFetched sends isStatus (hasPolicy_keeping .unknown) (interleaved_keeping between)
  have spares := (pass_tells looksAway goes isFetched sends isStatus).2
  have isChanged := (hasPolicy_keeping .true).undisturbed spares (.alone _ _ between)
  exact ⟨_, write, written, isStatus, isChanged, isWritten, same⟩

/-- It is not so that conditions of other types are still there once a pass has written the status:
those that others have changed since the pass fetched the policy are not. -/
theorem pass_otherConditions_stale :
    ¬ ∀ (setting : Setting), setting.LooksAway → ∀ (queued fetched : Policy) (space : String)
      (ledger after : Ledger) (t rest : Transcript world) (result : Except PassError Action)
      (between later : List Sent) (write : Sent) (start server : Server),
      ((setting.pass queued).run ledger).Goes t (result, after) →
      queued.Fetched space fetched t rest →
      Transcript.sent rest = between ++ write :: later → write.request.isStatusPatch →
      start.HasPolicy space fetched.metadata.displayName fetched →
      start.Interleaved (Server.OthersWrite space fetched.metadata.displayName) between server →
      ∀ stored written, server.HasPolicy space fetched.metadata.displayName stored →
        (server.serve write.request).2.HasPolicy space fetched.metadata.displayName written →
        ∀ condition ∈ stored.otherConditions, condition ∈ written.otherConditions := by
  intro always
  obtain ⟨t, result, after, goes, isFetched⟩ := pass_goes_kept
  obtain ⟨between, write, later, sends, isStatus⟩ := sent_kept
  have looksAway : served.LooksAway := ClusterInfo.read_looks .standard
  obtain ⟨⟨outcome, now, isWrite⟩, spares⟩ := pass_tells looksAway goes isFetched sends isStatus
  have isStored := (hasPolicy_keeping .true).undisturbed spares (.alone _ _ between)
  obtain ⟨written, isWritten, same⟩ := (kept .unknown).serve_afterPass isStored outcome now
  have survives := always served looksAway (kept .unknown) (kept .unknown) "liqo-tenant-c" .fresh
    after t keptRest result between later write (keeping .unknown)
    ((keeping .true).afterAll between) goes isFetched sends isStatus (hasPolicy_keeping .unknown)
    (interleaved_keeping between) (kept .true) written isStored (isWrite ▸ isWritten)
  rw [same] at survives
  exact absurd (survives (enforced .true) (by decide)) (by decide)

end Setting

end PeerFirewall
