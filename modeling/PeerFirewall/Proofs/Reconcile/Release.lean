import PeerFirewall.Proofs.Api.Body
import PeerFirewall.Proofs.Reconcile.Honesty

/-!
# When a policy is let go

A policy that is being deleted stays while it carries the mark of the controller. A pass over it
asks for the deletion of its firewall configuration and then takes the mark off, just where the
server has accepted the deletion (`Setting.pass_releases`). What it has accepted need not have
happened: a configuration with finalizers of others is still there when the policy is let go
(`Setting.pass_releases_early`).
-/
namespace PeerFirewall

/-! ### What a reply to a deletion says -/

/-- What the reply to the deletion of a firewall configuration says about it. -/
inductive Removal where
  /-- It is not there, or no longer. -/
  | gone
  /-- It is there until its finalizers are removed. -/
  | pending
  /-- A status stands for it that reports no success. -/
  | unclear
  /-- It is not deleted, or the reply says nothing. -/
  | refused
deriving DecidableEq, Repr

namespace Json

/-- Whether a status says that a request succeeded. -/
def reportsSuccess (status : Json) : Bool :=
  (status.get? "status").any fun said =>
    (Decoder.choice [("Success", true), ("Failure", false)] said).toOption = some true

end Json

namespace Reply

/-- What the reply to the deletion of a firewall configuration is read as. -/
def deletion (reply : Reply) : Except ApiError (ApiCall.Deletion Firewall) :=
  reply.readSound (ApiCall.decodeDeletion Firewall.decode)

/-- What the reply to the deletion of a firewall configuration says about it. -/
def removal (reply : Reply) : Removal :=
  match reply.deletion with
  | .ok (.pending firewall) => if firewall.metadata.finalizerList = [] then .gone else .pending
  | .ok .reported => if reply.content.value.reportsSuccess then .gone else .unclear
  | .error error => if error.isNotFound then .gone else .refused

/-- A deletion is taken for done unless the reply refuses it. -/
theorem deletionEnd_eq_ok {reply : Reply} :
    Firewall.deletionEnd reply.deletion = .ok () ↔ reply.removal ≠ .refused := by
  unfold removal
  match reply.deletion with
  | .ok (.pending firewall) =>
    simp only [Firewall.deletionEnd, true_iff]
    split <;> nofun
  | .ok .reported =>
    simp only [Firewall.deletionEnd, true_iff]
    split <;> nofun
  | .error error =>
    simp only [Firewall.deletionEnd]
    split <;> simp

end Reply

/-! ### The requests -/

/-- The request that takes the mark off a policy. -/
def Policy.releaseRequest («namespace» name : String) (place : Nat) : Request :=
  ⟨.patch .json, .object (ApiCall.objects Policy (some «namespace»)) name, [],
    some (Finalizer.removed place)⟩

/-- Whether a request takes the mark off an object. -/
def Request.TakesMark (request : Request) : Prop :=
  ∃ place, request.method = .patch .json ∧ request.body = some (Finalizer.removed place)

/-- Whether a policy is being deleted and carries the mark of the controller. -/
structure Policy.Leaving (policy : Policy) : Prop where
  marked : Finalizer.place? policy.metadata ≠ none
  deleted : policy.metadata.deletionTimestamp ≠ none

/-- Whether the mark can be taken off a policy: the policy has a name, and it makes an address. The
place of the mark is no part of the address. -/
def Policy.Releasable («namespace» : String) (policy : Policy) : Prop :=
  ∃ name uri, policy.metadata.name = some name ∧ name ≠ "" ∧
    (Policy.releaseRequest «namespace» name 0).uri? = .ok uri

namespace Firewall

/-- A removal asks for the deletion and is done unless the reply refuses it, or it asks for nothing
and fails. -/
theorem remove_goes {space name : String} {t : Transcript world} {result : Except ApiError Unit}
    (goes : (remove space name).run.Goes t result) :
    (t = [] ∧ ∃ fault, result = .error (.unsent fault)) ∨
      ∃ reply, t = [WorldStep.sent (deletionRequest space name) reply] ∧
        (result = .ok () ↔ reply.removal ≠ .refused) := by
  unfold remove at goes
  rw [ExceptT.run_mk] at goes
  obtain ⟨deletion, deletes, rfl⟩ := Program.goes_map.1 goes
  rcases ApiCall.goes_byName_send deletes with ⟨rfl, fault, rfl⟩ | ⟨reply, rfl, rfl⟩
  · exact .inl ⟨rfl, fault, rfl⟩
  · exact .inr ⟨reply, rfl, Reply.deletionEnd_eq_ok⟩

end Firewall

namespace Setting

variable {setting : Setting} {space clusterId : String} {policy : Policy} {t : Transcript world}
  {ledger after : Ledger}

/-! ### The pass -/

/-- What cleaning up asks for, and whether the policy may be let go then. -/
inductive Cleans (setting : Setting) (space : String) : Transcript world → Bool → Prop where
  /-- The namespace names no peer, so nothing was written. -/
  | peerless {error : ClusterIdError}
      (noPeer : setting.info.tenants.clusterId space = .error error) :
      Cleans setting space [] true
  /-- The deletion cannot be asked for. -/
  | unsent {clusterId : String} (isPeer : setting.info.tenants.clusterId space = .ok clusterId) :
      Cleans setting space [] false
  /-- The configuration is not deleted. -/
  | refused {clusterId : String} {reply : Reply}
      (isPeer : setting.info.tenants.clusterId space = .ok clusterId)
      (refused : reply.removal = .refused) :
      Cleans setting space
        [WorldStep.sent (Firewall.deletionRequest space (ClusterInfo.firewallName clusterId)) reply]
        false
  /-- The deletion is accepted. -/
  | accepted {clusterId : String} {reply : Reply}
      (isPeer : setting.info.tenants.clusterId space = .ok clusterId)
      (accepted : reply.removal ≠ .refused) :
      Cleans setting space
        [WorldStep.sent (Firewall.deletionRequest space (ClusterInfo.firewallName clusterId)) reply]
        true

/-- Cleaning up succeeds just where the policy may be let go then. -/
theorem cleanup_cleans {result : Except SyncError Action}
    (goes : ((setting.cleanup space).run ledger).Goes t (result, after)) :
    setting.Cleans space t result.toBool := by
  unfold cleanup at goes
  cases isPeer : setting.info.tenants.clusterId space with
  | error error =>
    simp only [isPeer] at goes
    obtain ⟨rfl, same⟩ := goes
    cases same
    exact .peerless isPeer
  | ok clusterId =>
    simp only [isPeer] at goes
    rw [Program.run_stateT_lift_bind, Program.goes_bind] at goes
    obtain ⟨removing, _, removed, rfl, removes, goes⟩ := goes
    rcases Firewall.remove_goes removes with ⟨rfl, fault, rfl⟩ | ⟨reply, rfl, done⟩
    · obtain ⟨rfl, same⟩ := goes
      cases same
      exact .unsent isPeer
    · rcases removed with error | ⟨⟩
      · obtain ⟨rfl, same⟩ := goes
        cases same
        refine .refused isPeer (not_not.1 fun accepted => ?_)
        cases done.2 accepted
      · obtain ⟨rfl, same⟩ := goes
        cases same
        exact .accepted isPeer (done.1 rfl)

/-- A patch of the finalizers of a policy is sent just where it can be, and fails otherwise. -/
theorem patchFinalizers_goes {name : String} {body : Json} {result : Except ApiError Policy}
    (named : policy.metadata.name = some name)
    (goes : (patchFinalizers space name body).Goes t result) :
    (t = [] ∧ ¬ policy.Releasable space ∧ ∃ error, result = .error error) ∨
      policy.Releasable space ∧
        ∃ answer, t = [WorldStep.sent (Finalizer.request space name body) answer] := by
  unfold patchFinalizers ApiCall.patch ApiCall.byName ApiCall.exchange ApiCall.send at goes
  split at goes
  · rename_i unnamed
    obtain ⟨rfl, rfl⟩ := goes
    refine .inl ⟨rfl, ?_, _, rfl⟩
    rintro ⟨_, _, isNamed, nonempty, _⟩
    cases named.symm.trans isNamed
    exact nonempty unnamed
  · rename_i nonempty
    split at goes
    · rename_i noAddress
      obtain ⟨rfl, rfl⟩ := goes
      refine .inl ⟨rfl, ?_, _, rfl⟩
      rintro ⟨_, uri, isNamed, _, address⟩
      cases named.symm.trans isNamed
      cases noAddress.symm.trans address
    · rename_i address
      obtain ⟨answer, _, rfl, rfl, _⟩ := goes
      exact .inr ⟨⟨name, _, named, nonempty, address⟩, answer, rfl⟩

/-- How a policy is dealt with that is not there to stay, or not yet, and how that ends. -/
inductive Handles (setting : Setting) (space : String) (policy : Policy) :
    Transcript world → Except FinalizerError Action → Prop where
  /-- A policy that is being deleted and does not carry the mark is left alone. -/
  | ignored (unmarked : Finalizer.place? policy.metadata = none)
      (deleted : policy.metadata.deletionTimestamp ≠ none) :
      Handles setting space policy [] (.ok .awaitChange)
  /-- A policy that cannot be addressed is neither marked nor let go. -/
  | misnamed {error : FinalizerError} (unaddressed : ¬ policy.Releasable space) :
      Handles setting space policy [] (.error error)
  /-- A policy that is there to stay is marked. -/
  | marked {name : String} {answer : Reply} {result : Except FinalizerError Action}
      (unmarked : Finalizer.place? policy.metadata = none)
      (kept : policy.metadata.deletionTimestamp = none)
      (named : policy.metadata.name = some name) (addressed : policy.Releasable space) :
      Handles setting space policy
        [WorldStep.sent (Finalizer.request space name
          (Finalizer.added policy.metadata.finalizerList)) answer] result
  /-- A policy keeps the mark where cleaning up fails. -/
  | held {cleaning : Transcript world} {error : FinalizerError} (leaving : policy.Leaving)
      (cleans : setting.Cleans space cleaning false) :
      Handles setting space policy cleaning (.error error)
  /-- A policy is clean that cannot be addressed. -/
  | stuck {cleaning : Transcript world} {error : FinalizerError} (leaving : policy.Leaving)
      (cleans : setting.Cleans space cleaning true) (unaddressed : ¬ policy.Releasable space) :
      Handles setting space policy cleaning (.error error)
  /-- A policy is clean and let go. -/
  | released {cleaning : Transcript world} {name : String} {place : Nat} {answer : Reply}
      {result : Except FinalizerError Action} (leaving : policy.Leaving)
      (cleans : setting.Cleans space cleaning true) (named : policy.metadata.name = some name)
      (isPlace : Finalizer.place? policy.metadata = some place) :
      Handles setting space policy
        (cleaning ++ [WorldStep.sent (Policy.releaseRequest space name place) answer]) result

/-- A policy without a name cannot be addressed. -/
theorem not_releasable_of_unnamed (unnamed : policy.metadata.name = none) :
    ¬ policy.Releasable space := by
  rintro ⟨_, _, isNamed, _⟩
  cases unnamed.symm.trans isNamed

/-- Dealing with a policy that is not there to stay handles it. -/
theorem finalize_handles (gone : ¬ policy.Stays) {result : Except FinalizerError Action}
    (goes : ((setting.finalize space policy).run ledger).Goes t (result, after)) :
    setting.Handles space policy t result := by
  cases policy.stage with
  | arriving unmarked kept named =>
    rw [finalize_arriving unmarked kept named, Program.run_stateT_lift_bind,
      Program.goes_bind] at goes
    obtain ⟨marking, _, added, rfl, marks, goes⟩ := goes
    rcases patchFinalizers_goes named marks with
      ⟨rfl, unaddressed, error, rfl⟩ | ⟨addressed, answer, rfl⟩
    · obtain ⟨rfl, same⟩ := goes
      cases same
      exact .misnamed unaddressed
    · obtain rfl : _ = [] := by cases added <;> exact goes.1
      exact .marked unmarked kept named addressed
  | staying marked kept => exact absurd ⟨marked ▸ nofun, kept⟩ gone
  | leaving marked deleted named =>
    have leaving : policy.Leaving := ⟨marked ▸ nofun, deleted⟩
    rw [finalize_leaving marked deleted named, Program.run_stateT_bind, Program.goes_bind] at goes
    obtain ⟨cleaning, _, ⟨cleaned, _⟩, rfl, cleaning_goes, goes⟩ := goes
    have cleans := cleanup_cleans cleaning_goes
    rcases cleaned with error | action
    · obtain ⟨rfl, same⟩ := goes
      cases same
      rw [List.append_nil]
      exact .held leaving cleans
    · simp only at goes
      rw [Program.run_stateT_lift_bind, Program.goes_bind] at goes
      obtain ⟨releasing, _, released, rfl, releases, goes⟩ := goes
      rcases patchFinalizers_goes named releases with
        ⟨rfl, unaddressed, error, rfl⟩ | ⟨_, answer, rfl⟩
      · obtain ⟨rfl, same⟩ := goes
        cases same
        rw [List.append_nil, List.append_nil]
        exact .stuck leaving cleans unaddressed
      · obtain rfl : _ = [] := by cases released <;> exact goes.1
        rw [List.append_nil]
        exact .released leaving cleans named marked
  | released unmarked deleted =>
    rw [finalize_released unmarked deleted] at goes
    obtain ⟨rfl, same⟩ := goes
    cases same
    exact .ignored unmarked deleted
  | unnamed unnamed unsettled =>
    rw [finalize_unnamed unnamed unsettled] at goes
    obtain ⟨rfl, same⟩ := goes
    cases same
    exact .misnamed (not_releasable_of_unnamed unnamed)

/-- How a pass lets a policy go whose firewall configuration has been written for that peer. -/
inductive LetsGo (space clusterId : String) (policy : Policy) : Transcript world → Prop where
  /-- There is nothing that could be sent. -/
  | unsent : LetsGo space clusterId policy []
  /-- The configuration is not deleted, and the policy keeps the mark. -/
  | held {reply : Reply} (refused : reply.removal = .refused) :
      LetsGo space clusterId policy
        [WorldStep.sent (Firewall.deletionRequest space (ClusterInfo.firewallName clusterId)) reply]
  /-- The deletion is accepted, but the policy cannot be addressed. -/
  | misnamed {reply : Reply} (unaddressed : ¬ policy.Releasable space) :
      LetsGo space clusterId policy
        [WorldStep.sent (Firewall.deletionRequest space (ClusterInfo.firewallName clusterId)) reply]
  /-- The deletion is accepted, and the mark is taken off. -/
  | released {reply answer : Reply} {name : String} {place : Nat}
      (accepted : reply.removal ≠ .refused) :
      LetsGo space clusterId policy
        [WorldStep.sent (Firewall.deletionRequest space (ClusterInfo.firewallName clusterId)) reply,
          WorldStep.sent (Policy.releaseRequest space name place) answer]

/-- Dealing with a policy that is being deleted lets it go. -/
theorem finalize_letsGo (leaving : policy.Leaving)
    (isPeer : setting.info.tenants.clusterId space = .ok clusterId)
    {result : Except FinalizerError Action}
    (goes : ((setting.finalize space policy).run ledger).Goes t (result, after)) :
    LetsGo space clusterId policy t := by
  have handles := finalize_handles (fun stays => leaving.deleted stays.kept) goes
  cases handles with
  | ignored unmarked => exact absurd unmarked leaving.marked
  | marked unmarked => exact absurd unmarked leaving.marked
  | misnamed => exact .unsent
  | held _ cleans =>
    cases cleans with
    | unsent => exact .unsent
    | refused isPeerToo refused =>
      cases isPeer.symm.trans isPeerToo
      exact .held refused
  | stuck _ cleans unaddressed =>
    cases cleans with
    | peerless noPeer => exact .unsent
    | accepted isPeerToo =>
      cases isPeer.symm.trans isPeerToo
      exact .misnamed unaddressed
  | released _ cleans =>
    cases cleans with
    | peerless noPeer => cases isPeer.symm.trans noPeer
    | accepted isPeerToo accepted =>
      cases isPeer.symm.trans isPeerToo
      exact .released accepted

/-- When the mark is taken off a policy whose firewall configuration has been written for that
peer. -/
structure ReleasedBy (space clusterId : String) (policy : Policy) (made : List Sent) : Prop where
  /-- The mark is taken off only after the deletion of the configuration was accepted: it is gone
  then, or its deletion is pending, or a status stands for it that reports no success. -/
  only : ∀ patch ∈ made, patch.request.TakesMark → ∃ before deletion later,
    made = before ++ deletion :: later ∧ patch ∈ later ∧
    deletion.request =
      Firewall.deletionRequest space (ClusterInfo.firewallName clusterId) ∧
    (deletion.reply.removal = .gone ∨ deletion.reply.removal = .pending ∨
      deletion.reply.removal = .unclear)
  /-- The mark is taken off whenever the deletion was accepted, if the policy can be addressed. -/
  whenever : policy.Releasable space → ∀ deletion ∈ made,
    deletion.request = Firewall.deletionRequest space (ClusterInfo.firewallName clusterId) →
    deletion.reply.removal ≠ .refused → ∃ patch ∈ made, patch.request.TakesMark

/-- Requests that do not take the mark off, before which the deletion was not asked for or not
accepted, leave the policy as it is. -/
theorem ReleasedBy.of_kept {made : List Sent}
    (kept : ∀ e ∈ made, ¬ e.request.TakesMark)
    (unaccepted : policy.Releasable space → ∀ e ∈ made, e.request =
      Firewall.deletionRequest space (ClusterInfo.firewallName clusterId) →
        e.reply.removal = .refused) :
    ReleasedBy space clusterId policy made where
  only patch member takes := absurd takes (kept patch member)
  whenever releasable deletion member isDeletion accepted :=
    absurd (unaccepted releasable deletion member isDeletion) accepted

/-- A reading before makes no difference. -/
theorem ReleasedBy.cons {made : List Sent} {e : Sent} (isRead : e.request.method = .get)
    (released : ReleasedBy space clusterId policy made) :
    ReleasedBy space clusterId policy (e :: made) where
  only patch member takes := by
    rcases List.mem_cons.1 member with rfl | member
    · obtain ⟨_, isPatch, _⟩ := takes
      cases isRead.symm.trans isPatch
    · obtain ⟨before, deletion, later, rfl, found⟩ := released.only patch member takes
      exact ⟨e :: before, deletion, later, rfl, found⟩
  whenever releasable deletion member isDeletion accepted := by
    rcases List.mem_cons.1 member with rfl | member
    · rw [isDeletion] at isRead
      cases isRead
    · obtain ⟨patch, isIn, takes⟩ :=
        released.whenever releasable deletion member isDeletion accepted
      exact ⟨patch, List.mem_cons_of_mem _ isIn, takes⟩

/-- Letting a policy go takes the mark off just where the deletion of the configuration was
accepted. -/
theorem LetsGo.releasedBy (letsGo : LetsGo space clusterId policy t) :
    ReleasedBy space clusterId policy (Transcript.sent t) := by
  have untouched {reply : Reply} : ∀ e ∈ [(⟨Firewall.deletionRequest space
      (ClusterInfo.firewallName clusterId), reply⟩ : Sent)], ¬ e.request.TakesMark :=
    List.forall_mem_singleton.2 fun ⟨_, isPatch, _⟩ => nomatch isPatch
  cases letsGo with
  | unsent => exact .of_kept (List.forall_mem_nil _) fun _ => List.forall_mem_nil _
  | held refused => exact .of_kept untouched fun _ => List.forall_mem_singleton.2 fun _ => refused
  | misnamed unaddressed =>
    exact .of_kept untouched fun releasable => absurd releasable unaddressed
  | @released reply answer name place accepted =>
    constructor
    case only =>
      intro patch member takes
      refine ⟨[], _, [⟨Policy.releaseRequest space name place, answer⟩], rfl, ?_, rfl, ?_⟩
      · rcases List.mem_cons.1 member with rfl | isIn
        · exact absurd takes (untouched _ List.mem_cons_self)
        · exact isIn
      · change reply.removal = .gone ∨ reply.removal = .pending ∨ reply.removal = .unclear
        cases said : reply.removal with
        | gone => exact .inl rfl
        | pending => exact .inr (.inl rfl)
        | unclear => exact .inr (.inr rfl)
        | refused => exact absurd said accepted
    case whenever =>
      intro _ _ _ _ _
      exact ⟨_, List.mem_cons_of_mem _ List.mem_cons_self, place, rfl, rfl⟩

/-- A pass takes the mark off a policy that is being deleted only after the server has accepted the
deletion of the firewall configuration, and then does so if it can, whether the configuration is
gone or not. -/
theorem pass_releases (setting : Setting) (queued fetched : Policy) (space clusterId : String)
    (ledger after : Ledger) (t rest : Transcript world) (result : Except PassError Action)
    (goes : ((setting.pass queued).run ledger).Goes t (result, after))
    (isFetched : queued.Fetched space fetched t rest) (leaving : fetched.Leaving)
    (isPeer : setting.info.tenants.clusterId space = .ok clusterId) :
    ReleasedBy space clusterId fetched (Transcript.sent t) := by
  rcases pass_goes goes with unfetched | ⟨_, _, _, _, isFetchedToo, finalizes, _⟩
  · exact absurd isFetched (unfetched.unfetched space fetched rest)
  · obtain ⟨rfl, rfl, rfl⟩ := isFetched.unique isFetchedToo
    have released := (finalize_letsGo leaving isPeer finalizes).releasedBy
    obtain ⟨_, now, reply, rfl, _⟩ := isFetched
    exact released.cons rfl

/-! ### A configuration with finalizers of others -/

/-- A policy without rules that is being deleted. -/
def leavingPolicy : Policy :=
  { marked "rules" "liqo-tenant-c" with
    metadata := { (marked "rules" "liqo-tenant-c").metadata with
      deletionTimestamp := some ⟨0, 0⟩ } }

/-- A firewall configuration that stays after its deletion until somebody else lets it go. -/
def clinging : Firewall where
  metadata := { Metadata.empty with
    name := some "c-security-fabric"
    deletionTimestamp := some ⟨0, 0⟩
    finalizers := some ["networking.liqo.io/firewall-hold"] }
  spec := ⟨⟨"cluster-security", .ipv4, [], []⟩⟩

/-- Answers to a pass: the policy is as it is, and the deletion of the configuration is pending. -/
def clingingAnswers : (question : world.Question) → Unit → world.Answer question × Unit
  | .send request, _ =>
    (Store.reply (if request.method = .delete then clinging.encode else leavingPolicy.encode), ())
  | .clock, _ => ((⟨0, 0⟩ : Time.Instant), ())
  | .look (.cidr _), _ => (.error ⟨"unknown", []⟩, ())
  | .look (.pods _), _ => (.error ⟨"unknown", []⟩, ())

/-- What a pass over the policy does after it has fetched it. -/
def clingingRest : Transcript world :=
  ((served.finalize "liqo-tenant-c" leavingPolicy).run .fresh).transcript clingingAnswers ()

/-- There is a pass that does so. -/
theorem pass_goes_clinging :
    ∃ t result after, ((served.pass leavingPolicy).run .fresh).Goes t (result, after) ∧
      leavingPolicy.Fetched "liqo-tenant-c" leavingPolicy t clingingRest := by
  have reads : (Store.reply leavingPolicy.encode).read Policy.decode = .ok leavingPolicy := by
    decide +kernel
  exact served_goes rfl rfl reads clingingAnswers ()

/-- The pass sends the deletion, which stays pending, and then the patch that takes the mark off. -/
theorem sent_clinging {t : Transcript world}
    (isFetched : leavingPolicy.Fetched "liqo-tenant-c" leavingPolicy t clingingRest) :
    ∃ read deletion release, Transcript.sent t = [read, deletion, release] ∧
      read.request.method = .get ∧
      deletion.request = Firewall.deletionRequest "liqo-tenant-c" "c-security-fabric" ∧
      deletion.reply.removal = .pending ∧
      release.request = Policy.releaseRequest "liqo-tenant-c" "rules" 0 := by
  have sends : (Transcript.sent clingingRest).map (fun e => (e.request, e.reply.removal)) =
      [(Firewall.deletionRequest "liqo-tenant-c" "c-security-fabric", .pending),
        (Policy.releaseRequest "liqo-tenant-c" "rules" 0, .refused)] := by
    decide +kernel
  obtain ⟨_, now, reply, rfl, _⟩ := isFetched
  rw [Transcript.sent_cons_clock, Transcript.sent_cons_sent]
  generalize Transcript.sent clingingRest = made at sends ⊢
  obtain ⟨deletion, _, rfl, isDeletion, sends⟩ := List.map_eq_cons_iff.1 sends
  obtain ⟨release, _, rfl, isRelease, sends⟩ := List.map_eq_cons_iff.1 sends
  obtain rfl := List.map_eq_nil_iff.1 sends
  obtain ⟨deletes, isPending⟩ := Prod.mk.inj isDeletion
  exact ⟨_, deletion, release, rfl, rfl, deletes, isPending, (Prod.mk.inj isRelease).1⟩

/-- A pass over a policy whose firewall configuration stays after its deletion lets the policy
go. -/
theorem pass_releases_clinging :
    ∃ t, (∃ patch ∈ Transcript.sent t, patch.request.TakesMark) ∧
      ReleasedBy "liqo-tenant-c" "c" leavingPolicy (Transcript.sent t) := by
  obtain ⟨t, result, after, goes, isFetched⟩ := pass_goes_clinging
  obtain ⟨read, deletion, release, sends, _, _, _, isRelease⟩ := sent_clinging isFetched
  have leaving : leavingPolicy.Leaving := ⟨by decide, nofun⟩
  have isPeer : served.info.tenants.clusterId "liqo-tenant-c" = .ok "c" := by decide +kernel
  refine ⟨t, ⟨release, ?_, 0, ?_, ?_⟩, pass_releases served leavingPolicy leavingPolicy
    "liqo-tenant-c" "c" .fresh after t clingingRest result goes isFetched leaving isPeer⟩
  · rw [sends]
    exact List.mem_cons_of_mem _ (List.mem_cons_of_mem _ List.mem_cons_self)
  · rw [isRelease]
    rfl
  · rw [isRelease]
    rfl

/-- It is not so that a pass takes the mark off only where the reply to the deletion says that the
firewall configuration is gone: it may still be there. -/
theorem pass_releases_early :
    ¬ ∀ (setting : Setting) (queued fetched : Policy) (space clusterId : String)
      (ledger after : Ledger) (t rest : Transcript world) (result : Except PassError Action),
      ((setting.pass queued).run ledger).Goes t (result, after) →
      queued.Fetched space fetched t rest → fetched.Leaving →
      setting.info.tenants.clusterId space = .ok clusterId →
      ∀ patch ∈ Transcript.sent t, patch.request.TakesMark → ∃ deletion ∈ Transcript.sent t,
        deletion.request = Firewall.deletionRequest space (ClusterInfo.firewallName clusterId) ∧
        deletion.reply.removal = .gone := by
  intro always
  obtain ⟨t, result, after, goes, isFetched⟩ := pass_goes_clinging
  obtain ⟨read, deletion, release, sends, isRead, _, isPending, isRelease⟩ :=
    sent_clinging isFetched
  have isPeer : served.info.tenants.clusterId "liqo-tenant-c" = .ok "c" := by decide +kernel
  have takes : release.request.TakesMark := ⟨0, by rw [isRelease]; rfl, by rw [isRelease]; rfl⟩
  obtain ⟨e, member, isDeletion, gone⟩ := always served leavingPolicy leavingPolicy
    "liqo-tenant-c" "c" .fresh after t clingingRest result goes isFetched ⟨by decide, nofun⟩ isPeer
    release (by rw [sends]; simp) takes
  rw [sends] at member
  simp only [List.mem_cons, List.not_mem_nil, or_false] at member
  rcases member with rfl | rfl | rfl
  · rw [isDeletion] at isRead
    cases isRead
  · cases isPending.symm.trans gone
  · cases isRelease.symm.trans isDeletion

end Setting

end PeerFirewall
