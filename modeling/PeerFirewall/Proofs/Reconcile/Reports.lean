import PeerFirewall.Proofs.Reconcile.Announcing
import PeerFirewall.Proofs.Reconcile.InForce

/-!
# What a pass reports

A pass reports how it ended on the status of the policy and by events. The status is written by one
patch, which is left out if the status says so already and cannot be sent if the name of the policy
makes no address (`Policy.updateStatus_goes`). Events touch neither policies nor firewall
configurations (`Setting.Announces.isAside`).
-/
namespace PeerFirewall

variable {t : Transcript world} {policy : Policy}

/-! ### The status -/

/-- The request that writes the status of a policy. -/
def Policy.statusRequest («namespace» : String) (policy : Policy) (status : PolicyStatus) :
    Request :=
  ⟨.patch .merge, .status (ApiCall.objects Policy (some «namespace»)) policy.metadata.displayName,
    [], some status.patch⟩

/-- Whether the status of a policy can be written: the policy has a name, and it makes an address.
The content of the status is no part of the address. -/
structure Policy.Addressable («namespace» : String) (policy : Policy) : Prop where
  named : policy.metadata.displayName ≠ ""
  address : ∃ uri, (policy.statusRequest «namespace» ⟨none, []⟩).uri? = .ok uri

/-- The clock is read, and the status is written unless it says so already. -/
theorem Policy.updateStatus_eq (policy : Policy) (space : String) (outcome : Outcome) :
    (policy.updateStatus space outcome).run = readClock.bind fun now =>
      let status := PolicyStatus.afterPass policy.status policy.metadata.generation outcome now
      if policy.status = some status then .done (.ok ())
      else (fun written => written.map fun _ => ()) <$>
        (ApiCall.patchStatus (some space) policy.metadata.displayName status.patch :
          ApiCall Policy).run := by
  have each (status : PolicyStatus) :
      ExceptT.run (if policy.status = some status then pure () else do
        let _ : Policy ←
          ApiCall.patchStatus (some space) policy.metadata.displayName status.patch
        return () : ApiCall Unit) = if policy.status = some status then .done (.ok ())
      else (fun written => written.map fun _ => ()) <$>
        (ApiCall.patchStatus (some space) policy.metadata.displayName status.patch :
          ApiCall Policy).run := by
    split
    · rfl
    · rw [ExceptT.run_bind, map_eq_pure_bind]
      congr 1
      funext written
      cases written <;> rfl
  exact congrArg readClock.bind (funext fun now => each _)

/-- A pass reads the clock and then writes the status, unless that says already how it ended. -/
theorem Policy.updateStatus_goes {space : String} {outcome : Outcome}
    {result : Except ApiError Unit} (goes : (policy.updateStatus space outcome).run.Goes t result) :
    ∃ now rest, t = WorldStep.clock now :: rest ∧
      let status := PolicyStatus.afterPass policy.status policy.metadata.generation outcome now
      (policy.status = some status ∧ rest = [] ∧ result = .ok ()) ∨
      (rest = [] ∧ ¬ policy.Addressable space ∧ ∃ fault, result = .error (.unsent fault)) ∨
      ∃ reply, rest = [WorldStep.sent (policy.statusRequest space status) reply] := by
  rw [updateStatus_eq] at goes
  obtain ⟨now, rest, rfl, goes⟩ := goes
  refine ⟨now, rest, rfl, ?_⟩
  change Program.Goes (if _ then _ else _) rest result at goes
  split at goes
  · obtain ⟨rfl, rfl⟩ := goes
    exact .inl ⟨‹_›, rfl, rfl⟩
  · right
    obtain ⟨stored, patches, rfl⟩ := Program.goes_map.1 goes
    rcases ApiCall.goes_byName patches with ⟨unnamed, rfl, rfl⟩ | patches
    · exact .inl ⟨rfl, fun addressable => addressable.named unnamed, _, rfl⟩
    · rcases ApiCall.goes_send patches with ⟨fault, noAddress, rfl, rfl⟩ | ⟨reply, rfl, rfl⟩
      · refine .inl ⟨rfl, fun addressable => ?_, _, rfl⟩
        obtain ⟨uri, address⟩ := addressable.address
        cases noAddress.symm.trans address
      · exact .inr ⟨reply, rfl⟩

/-- A write of the status is not about firewall configurations. -/
theorem Policy.updateStatus_noFirewall {space : String} {outcome : Outcome}
    {result : Except ApiError Unit} (goes : (policy.updateStatus space outcome).run.Goes t result) :
    ∀ e ∈ Transcript.sent t, e.request.endpoint.concerns .firewall = false := by
  have noFirewall (status : PolicyStatus) :
      (policy.statusRequest space status).endpoint.concerns .firewall = false := by
    have other : ¬ Kind.policy = .firewall := by decide
    exact decide_eq_false other
  obtain ⟨now, rest, rfl, ⟨_, rfl, _⟩ | ⟨rfl, _⟩ | ⟨reply, rfl⟩⟩ := updateStatus_goes goes
  · exact List.forall_mem_nil _
  · exact List.forall_mem_nil _
  · exact List.forall_mem_singleton.2 (noFirewall _)

/-! ### Events -/

/-- Whether a question is not about firewall configurations and changes no status. -/
def WorldQuestion.IsAside : WorldQuestion → Prop
  | send request => request.IsAside
  | clock | look _ => True

/-- A look is aside. -/
theorem WorldQuestion.IsLook.isAside {question : WorldQuestion} (looks : question.IsLook) :
    question.IsAside := by
  cases question with
  | send request =>
    obtain ⟨isGet, _, noFirewall⟩ := looks
    exact ⟨by simp [Request.isStatusPatch, isGet], noFirewall⟩
  | clock | look query => trivial

/-- The publication of an event is aside. -/
theorem ClusterEvent.isAside_request (event : ClusterEvent) : event.request.IsAside := by
  have noFirewall : event.request.endpoint.concerns .firewall = false := by
    rw [Endpoint.concerns, event.objects?_request]
    exact decide_eq_false (show Kind.event ≠ .firewall by decide)
  refine ⟨?_, noFirewall⟩
  unfold request
  cases event.series <;> rfl

namespace Setting

variable {setting : Setting} {ledger after : Ledger}

/-- What is sent to announce something is aside. -/
theorem Announces.isAside {cache : EventCache} {content : EventNote}
    (announces : setting.Announces cache policy content t) :
    ∀ e ∈ Transcript.sent t, e.request.IsAside := by
  cases announces with
  | sent now reply => exact List.forall_mem_singleton.2 (ClusterEvent.isAside_request _)
  | unaddressed now noAddress => exact List.forall_mem_nil _

/-- A pass that reports a failure writes the status first, if it can, and then announces the
failure. -/
theorem reportFailure_goes {space : String} {outcome : Outcome}
    (goes : ((setting.reportFailure space policy outcome).run ledger).Goes t ((), after)) :
    ∃ writing telling result, t = writing ++ telling ∧
      (policy.updateStatus space outcome).run.Goes writing result ∧
      ((setting.announce policy (.failed outcome.message)).run ledger).Goes telling
        ((), after) := by
  unfold reportFailure at goes
  rw [Program.run_stateT_lift_bind, Program.goes_bind] at goes
  obtain ⟨writing, telling, result, rfl, writes, tells⟩ := goes
  exact ⟨writing, telling, result, rfl, writes, tells⟩

end Setting

end PeerFirewall
