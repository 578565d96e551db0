import PeerFirewall.Proofs.Reconcile.Finalizer
import PeerFirewall.Proofs.Reconcile.Release

/-!
# What the mark of the controller guards

Firewall configurations are stored only for a policy that carries the mark and is not being deleted.
A policy that is there to stay without the mark is marked and nothing else is done; one that is
being deleted loses the mark only after its firewall configuration is deleted
(`Setting.pass_guarded`). The patches for that change no other finalizer, whatever the policy has
become since it was read.
-/
namespace PeerFirewall

/-! ### The patches -/

namespace Policy

/-- Whether a patch puts the mark behind the finalizers of a policy and changes nothing else. -/
structure MarkedBy (policy : Policy) (patch : Json) : Prop where
  /-- Whatever the policy has become, the patch does so if it is applied. -/
  only : ∀ members later changed, decode (.obj members) = .ok later →
    (Json.obj members).patched? patch = some changed →
    changed = (Json.obj members).withFinalizers (later.metadata.finalizerList ++ [Finalizer.name])
  /-- It is applied where the policy is as it was read, unless an empty list of finalizers stands
  there. -/
  asRead : ∀ members, decode (.obj members) = .ok policy → policy.metadata.finalizers ≠ some [] →
    ((Json.obj members).patched? patch).isSome

/-- Whether a patch removes the mark from the finalizers of a policy and changes nothing else. -/
structure UnmarkedBy (policy : Policy) (patch : Json) : Prop where
  /-- Whatever the policy has become, the patch does so if it is applied. -/
  only : ∀ members later changed, decode (.obj members) = .ok later →
    (Json.obj members).patched? patch = some changed →
    ∃ before after, later.metadata.finalizerList = before ++ Finalizer.name :: after ∧
      changed = (Json.obj members).withFinalizers (before ++ after)
  /-- It is applied where the policy is as it was read. -/
  asRead : ∀ members, decode (.obj members) = .ok policy →
    (Json.obj members).patched? patch = some ((Json.obj members).withFinalizers
      (policy.metadata.finalizerList.erase Finalizer.name))

/-- The patch that adds the mark to the finalizers of a policy puts it behind them. -/
theorem markedBy_added (policy : Policy) :
    policy.MarkedBy (Finalizer.added policy.metadata.finalizerList) where
  only members later changed reads patches := by
    obtain ⟨listed, rfl⟩ := (Finalizer.patched?_added_iff (hasFinalizers_of_decode reads)).1 patches
    have same : later.metadata.finalizerList = policy.metadata.finalizerList := by
      rw [Metadata.finalizerList, listed]
      split
      · exact Eq.symm ‹_›
      · rfl
    rw [same]
  asRead members reads proper := by
    refine Option.isSome_iff_exists.2 ⟨_, (Finalizer.patched?_added_iff
      (hasFinalizers_of_decode reads)).2 ⟨?_, rfl⟩⟩
    rw [Metadata.finalizerList]
    cases found : policy.metadata.finalizers with
    | none => rfl
    | some names =>
      rw [found] at proper
      rw [Option.getD_some, if_neg fun isEmpty => proper (congrArg some isEmpty)]

/-- The patch that removes the mark from its place removes it. -/
theorem unmarkedBy_removed {policy : Policy} {place : Nat}
    (isPlace : Finalizer.place? policy.metadata = some place) :
    policy.UnmarkedBy (Finalizer.removed place) where
  only members later changed reads patches := by
    obtain ⟨stands, rfl⟩ :=
      (Finalizer.patched?_removed_iff (hasFinalizers_of_decode reads)).1 patches
    obtain ⟨inside, isThere⟩ := List.getElem?_eq_some_iff.1 stands
    refine ⟨_, _, ?_, congrArg _ (List.eraseIdx_eq_take_drop_succ ..)⟩
    rw [← isThere, List.getElem_cons_drop]
    exact (List.take_append_drop place _).symm
  asRead members reads := by
    have erases : policy.metadata.finalizerList.erase Finalizer.name =
        policy.metadata.finalizerList.eraseIdx place := by
      rw [List.erase_eq_eraseIdx, show policy.metadata.finalizerList.idxOf? _ = _ from isPlace]
    obtain ⟨inside, isThere, _⟩ := List.idxOf?_eq_some_iff.1 isPlace
    rw [erases]
    exact (Finalizer.patched?_removed_iff (hasFinalizers_of_decode reads)).2
      ⟨List.getElem?_eq_some_iff.2 ⟨inside, isThere⟩, rfl⟩

end Policy

namespace Reply

/-- Whether the reply to the deletion of a firewall configuration says that it is deleted, or that
there is none. -/
def Deletes (reply : Reply) : Prop :=
  (∃ said, reply.deletion = .ok said) ∨
    ∃ error, reply.deletion = .error error ∧ error.isNotFound

/-- A deletion is refused where the reply says neither. -/
theorem deletes_iff {reply : Reply} : reply.Deletes ↔ reply.removal ≠ .refused := by
  rw [← deletionEnd_eq_ok, Deletes]
  cases reply.deletion with
  | ok said => simp [Firewall.deletionEnd]
  | error error => cases notFound : error.isNotFound <;> simp [Firewall.deletionEnd, notFound]

end Reply

/-- The requests that write. -/
def Transcript.writes (t : Transcript world) : List Sent :=
  (Transcript.sent t).filter (!·.request.isRead)

namespace Setting

variable {setting : Setting} {space clusterId : String} {policy : Policy} {t : Transcript world}
  {ledger after : Ledger}

/-- Whether what is done with a policy, and how it ends, is as the mark of the controller asks. -/
structure Guarded {ε : Type} (setting : Setting) (space : String) (policy : Policy)
    (t : Transcript world) (result : Except ε Action) : Prop where
  /-- Firewall configurations are stored only for a policy that carries the mark and is not being
  deleted. -/
  stores : ∀ e ∈ Transcript.sent t, e.request.storesFirewall → policy.Stays
  /-- A policy without the mark that is not being deleted is marked, and nothing else is written. -/
  marks : Finalizer.place? policy.metadata = none → policy.metadata.deletionTimestamp = none →
    policy.Releasable space → ∃ e name, t.writes = [e] ∧ policy.metadata.name = some name ∧
      e.request = Finalizer.request space name (Finalizer.added policy.metadata.finalizerList)
  /-- If it cannot be addressed, nothing is written. -/
  misnamed : Finalizer.place? policy.metadata = none → policy.metadata.deletionTimestamp = none →
    ¬ policy.Releasable space → t.writes = [] ∧ ∃ error, result = .error error
  /-- Nothing is written for a policy without the mark that is being deleted. -/
  ignores : Finalizer.place? policy.metadata = none →
    policy.metadata.deletionTimestamp ≠ none → t.writes = []
  /-- The mark is taken only off a policy that is being deleted, after its firewall configuration is
  deleted, if the namespace names a peer that has one. -/
  releases : ∀ before e after, Transcript.sent t = before ++ e :: after → e.request.TakesMark →
    policy.Leaving ∧
    (∃ name place, policy.metadata.name = some name ∧
      Finalizer.place? policy.metadata = some place ∧
      e.request = Policy.releaseRequest space name place) ∧
    ((∃ error, setting.info.tenants.clusterId space = .error error) ∨
      ∃ clusterId, setting.info.tenants.clusterId space = .ok clusterId ∧ ∃ deletion ∈ before,
        deletion.request = Firewall.deletionRequest space (ClusterInfo.firewallName clusterId) ∧
        deletion.reply.Deletes)
  /-- If the deletion fails, the mark stays and the failure is the end. -/
  holds : policy.Leaving → ∀ clusterId, setting.info.tenants.clusterId space = .ok clusterId →
    (∀ deletion ∈ Transcript.sent t, deletion.request =
      Firewall.deletionRequest space (ClusterInfo.firewallName clusterId) →
        ¬ deletion.reply.Deletes) →
    (∀ e ∈ Transcript.sent t, ¬ e.request.TakesMark) ∧ ∃ error, result = .error error

/-- How a failure is called makes no difference. -/
theorem Guarded.mapError {ε δ : Type} {result : Except ε Action} (name : ε → δ)
    (guarded : setting.Guarded space policy t result) :
    setting.Guarded space policy t (result.mapError name) := by
  have failed : (∃ error, result = .error error) →
      ∃ error, result.mapError name = .error error := by
    rintro ⟨error, rfl⟩
    exact ⟨name error, rfl⟩
  exact {
    stores := guarded.stores
    marks := guarded.marks
    misnamed := fun unmarked kept unaddressed =>
      (guarded.misnamed unmarked kept unaddressed).imp_right failed
    ignores := guarded.ignores
    releases := guarded.releases
    holds := fun leaving clusterId isPeer undeleted =>
      (guarded.holds leaving clusterId isPeer undeleted).imp_right failed }

/-- What is asked of a policy that is there to stay never takes the mark off. -/
theorem MayAsk.keepsMark {cache : EventCache} {request : Request} (stays : policy.Stays)
    (mayAsk : setting.MayAsk WorldQuestion.IsSurvey cache space policy (.send request)) :
    ¬ request.TakesMark := by
  rintro ⟨place, isPatch, _⟩
  cases mayAsk with
  | look survey => cases survey.1.symm.trans isPatch
  | firewallRead | firewallCreated | firewallReplaced | firewallDeleted | statusWritten =>
    cases isPatch
  | finalizersPatched named others =>
    rcases others with unmarked | deleted
    · exact stays.marked unmarked
    · exact deleted stays.kept
  | announced content now =>
    unfold ClusterEvent.request at isPatch
    split at isPatch <;> cases isPatch

/-- Dealing with a policy that is there to stay is as the mark asks. -/
theorem guarded_of_stays {ε : Type} {result : Except ε Action} (stays : policy.Stays)
    (keeps : ∀ e ∈ Transcript.sent t, ¬ e.request.TakesMark) :
    setting.Guarded space policy t result where
  stores _ _ _ := stays
  marks unmarked := absurd unmarked stays.marked
  misnamed unmarked := absurd unmarked stays.marked
  ignores unmarked := absurd unmarked stays.marked
  releases before e after same takes := by
    refine absurd takes (keeps e ?_)
    rw [same]
    exact List.mem_append_right _ List.mem_cons_self
  holds leaving := absurd stays.kept leaving.deleted

/-- Cleaning up neither stores a firewall configuration nor takes the mark off. -/
theorem Cleans.aside {isDone : Bool} (cleans : setting.Cleans space t isDone) :
    ∀ e ∈ Transcript.sent t, e.request.storesFirewall = false ∧ ¬ e.request.TakesMark := by
  have deletes (clusterId : String) : (Firewall.deletionRequest space
      (ClusterInfo.firewallName clusterId)).storesFirewall = false ∧
      ¬ (Firewall.deletionRequest space (ClusterInfo.firewallName clusterId)).TakesMark :=
    ⟨rfl, fun ⟨_, isPatch, _⟩ => nomatch isPatch⟩
  cases cleans with
  | peerless | unsent => exact List.forall_mem_nil _
  | refused | accepted => exact List.forall_mem_singleton.2 (deletes _)

/-- Where a policy may be let go, its firewall configuration is deleted, if there can be one. -/
theorem Cleans.deletes (cleans : setting.Cleans space t true) :
    (∃ error, setting.info.tenants.clusterId space = .error error) ∨
      ∃ clusterId, setting.info.tenants.clusterId space = .ok clusterId ∧
        ∃ deletion ∈ Transcript.sent t, deletion.request =
          Firewall.deletionRequest space (ClusterInfo.firewallName clusterId) ∧
          deletion.reply.Deletes := by
  cases cleans with
  | peerless noPeer => exact .inl ⟨_, noPeer⟩
  | accepted isPeer accepted =>
    exact .inr ⟨_, isPeer, _, List.mem_cons_self, rfl, Reply.deletes_iff.2 accepted⟩

/-- Failing with a policy that is being deleted is as the mark asks, if nothing is stored and the
mark stays. -/
theorem guarded_of_held {ε : Type} {error : ε} (leaving : policy.Leaving)
    (aside : ∀ e ∈ Transcript.sent t, e.request.storesFirewall = false ∧ ¬ e.request.TakesMark) :
    setting.Guarded space policy t (.error error : Except ε Action) where
  stores e member stored := by
    cases (aside e member).1.symm.trans stored
  marks unmarked := absurd unmarked leaving.marked
  misnamed unmarked := absurd unmarked leaving.marked
  ignores unmarked := absurd unmarked leaving.marked
  releases before e after same takes := by
    refine absurd takes (aside e ?_).2
    rw [same]
    exact List.mem_append_right _ List.mem_cons_self
  holds _ _ _ _ := ⟨fun e member => (aside e member).2, error, rfl⟩

/-- Taking the mark off at the end is as the mark asks, if cleaning up is done. -/
theorem guarded_of_released {ε : Type} {result : Except ε Action} {name : String} {place : Nat}
    {answer : Reply} (leaving : policy.Leaving) (cleans : setting.Cleans space t true)
    (named : policy.metadata.name = some name)
    (isPlace : Finalizer.place? policy.metadata = some place) :
    setting.Guarded space policy
      (t ++ [WorldStep.sent (Policy.releaseRequest space name place) answer]) result where
  stores e member stored := by
    rw [Transcript.sent_append] at member
    rcases List.mem_append.1 member with cleaning | releasing
    · cases (cleans.aside e cleaning).1.symm.trans stored
    · obtain rfl := List.mem_singleton.1 releasing
      cases stored
  marks unmarked := absurd unmarked leaving.marked
  misnamed unmarked := absurd unmarked leaving.marked
  ignores unmarked := absurd unmarked leaving.marked
  releases before e after same takes := by
    rw [Transcript.sent_append] at same
    rcases List.eq_nil_or_concat after with rfl | ⟨between, last, rfl⟩
    · obtain ⟨rfl, isLast⟩ := List.append_inj' same rfl
      obtain rfl := List.singleton_inj.1 isLast
      exact ⟨leaving, ⟨name, place, named, isPlace, rfl⟩, cleans.deletes⟩
    · -- What comes before the last request belongs to the cleaning, which takes no mark off.
      rw [List.concat_eq_append, ← List.cons_append, ← List.append_assoc] at same
      have cleaning : Transcript.sent t = before ++ e :: between := (List.append_inj' same rfl).1
      refine absurd takes (cleans.aside e ?_).2
      rw [cleaning]
      exact List.mem_append_right _ List.mem_cons_self
  holds _ clusterId isPeer undeleted := by
    rcases cleans.deletes with ⟨error, noPeer⟩ | ⟨_, isPeerToo, deletion, member, asks, deletes⟩
    · cases isPeer.symm.trans noPeer
    · cases isPeer.symm.trans isPeerToo
      rw [Transcript.sent_append] at undeleted
      exact absurd deletes (undeleted deletion (List.mem_append_left _ member) asks)

/-- Handling a policy that is not there to stay, or not yet, is as the mark asks. -/
theorem Handles.guarded {result : Except FinalizerError Action}
    (handles : setting.Handles space policy t result) :
    setting.Guarded space policy t result := by
  cases handles with
  | held leaving cleans | stuck leaving cleans => exact guarded_of_held leaving cleans.aside
  | released leaving cleans named isPlace => exact guarded_of_released leaving cleans named isPlace
  | ignored unmarked deleted =>
    exact {
      stores := List.forall_mem_nil _
      marks := fun _ kept => absurd kept deleted
      misnamed := fun _ kept => absurd kept deleted
      ignores := fun _ _ => rfl
      releases := fun before e after same => by simp at same
      holds := fun leaving => absurd unmarked leaving.marked }
  | misnamed unaddressed =>
    exact {
      stores := List.forall_mem_nil _
      marks := fun _ _ releasable => absurd releasable unaddressed
      misnamed := fun _ _ _ => ⟨rfl, _, rfl⟩
      ignores := fun _ _ => rfl
      releases := fun before e after same => by simp at same
      holds := fun _ _ _ _ => ⟨List.forall_mem_nil _, _, rfl⟩ }
  | @marked name answer _ unmarked kept named addressed =>
    exact {
      stores := List.forall_mem_singleton.2 nofun
      marks := fun _ _ _ => ⟨_, name, rfl, named, rfl⟩
      misnamed := fun _ _ unaddressed => absurd addressed unaddressed
      ignores := fun _ deleted => absurd kept deleted
      releases := fun before e after same takes => by
        obtain ⟨place, _, isRemoval⟩ := takes
        have member : e ∈ before ++ e :: after := List.mem_append_right _ List.mem_cons_self
        rw [← same] at member
        obtain rfl := List.mem_singleton.1 member
        exact absurd (Option.some.inj isRemoval) (Finalizer.added_ne_removed _ place)
      holds := fun leaving => absurd unmarked leaving.marked }

/-- Reading a policy before it is dealt with makes no difference. -/
theorem Guarded.cons {ε : Type} {result : Except ε Action} {now : Time.Instant} {name : String}
    {reply : Reply} (guarded : setting.Guarded space policy t result) :
    setting.Guarded space policy (WorldStep.clock now ::
      WorldStep.sent (ApiCall.readRequest Policy space name) reply :: t) result where
  stores := List.forall_mem_cons.2 ⟨nofun, guarded.stores⟩
  marks := guarded.marks
  misnamed := guarded.misnamed
  ignores := guarded.ignores
  releases before e after same takes := by
    rw [Transcript.sent_cons_clock, Transcript.sent_cons_sent] at same
    cases before with
    | nil =>
      obtain ⟨rfl, _⟩ := List.cons.inj same
      obtain ⟨_, isPatch, _⟩ := takes
      cases isPatch
    | cons first before =>
      obtain ⟨_, same⟩ := List.cons.inj same
      obtain ⟨leaving, isRelease, cleaned⟩ := guarded.releases before e after same takes
      refine ⟨leaving, isRelease, cleaned.imp_right ?_⟩
      rintro ⟨clusterId, isPeer, deletion, member, isDeletion⟩
      exact ⟨clusterId, isPeer, deletion, List.mem_cons_of_mem _ member, isDeletion⟩
  holds leaving clusterId isPeer undeleted := by
    obtain ⟨keeps, fails⟩ := guarded.holds leaving clusterId isPeer fun deletion member =>
      undeleted deletion (List.mem_cons_of_mem _ member)
    exact ⟨List.forall_mem_cons.2 ⟨fun ⟨_, isPatch, _⟩ => (nomatch isPatch), keeps⟩, fails⟩

/-- Wherever the state of the cluster comes from, and whatever a pass is answered, it writes nothing
unless it has fetched a policy, and then what it does is as the mark of the controller asks; the
patches of the mark change nothing else. -/
theorem pass_guarded (setting : Setting)
    (source : setting.lookUp = PeerFirewall.lookUp ∨
      ∃ info : ClusterInfo, setting.lookUp = info.read)
    (queued : Policy) (ledger after : Ledger) (t : Transcript world)
    (result : Except PassError Action)
    (goes : ((setting.pass queued).run ledger).Goes t (result, after)) :
    ((∀ space fetched rest, ¬ queued.Fetched space fetched t rest) → t.writes = []) ∧
      ∀ space fetched rest, queued.Fetched space fetched t rest →
        setting.Guarded space fetched t result ∧
        fetched.MarkedBy (Finalizer.added fetched.metadata.finalizerList) ∧
        ∀ place, Finalizer.place? fetched.metadata = some place →
          fetched.UnmarkedBy (Finalizer.removed place) := by
  rcases pass_goes goes with
    unfetched | ⟨space, fetched, rest, finalized, isFetched, finalizes, rfl⟩
  · refine ⟨fun _ => List.filter_eq_nil_iff.2 fun e member => ?_, fun space fetched rest found =>
      absurd found (unfetched.unfetched space fetched rest)⟩
    obtain ⟨_, same⟩ := unfetched.reads e member
    rw [same]
    simp [Request.isRead, ApiCall.readRequest]
  · refine ⟨fun none => absurd isFetched (none space fetched rest), fun _ _ _ isFetchedToo => ?_⟩
    obtain ⟨rfl, rfl, rfl⟩ := isFetched.unique isFetchedToo
    refine ⟨?_, Policy.markedBy_added fetched, fun place => Policy.unmarkedBy_removed⟩
    have guarded : setting.Guarded space fetched rest finalized := by
      by_cases stays : fetched.Stays
      · have asks := Transcript.sent_of_asks
          (finalize_mayAsk (surveys_of_source source)).asks finalizes
        exact guarded_of_stays stays fun e member => (asks e member).keepsMark stays
      · exact (finalize_handles stays finalizes).guarded
    obtain ⟨_, now, reply, rfl, _⟩ := isFetched
    exact (guarded.mapError PassError.finalizer).cons

/-! ### Two policies without the mark -/

/-- A policy without rules of that name in a namespace, with the finalizers of others only. -/
def unmarked (name space : String) (others : List String) : Policy :=
  { marked name space with
    metadata := { (marked name space).metadata with finalizers := some others } }

/-- A pass over a policy that others keep puts the mark behind their finalizers. -/
theorem pass_guarded_unmarked :
    let policy := unmarked "rules" "liqo-tenant-c" ["example.org/hold"]
    let patch := Finalizer.added ["example.org/hold"]
    policy.MarkedBy patch ∧ ∃ (t : Transcript world) (e : Sent), t.writes = [e] ∧
      e.request = Finalizer.request "liqo-tenant-c" "rules" patch := by
  intro policy patch
  have reads : (Store.reply policy.encode).read Policy.decode = .ok policy := by decide +kernel
  have address : (Policy.releaseRequest "liqo-tenant-c" "rules" 0).uri? = .ok
      ⟨"/apis/connectivity.liqo.io/v1/namespaces/liqo-tenant-c/peeringconnectivities/rules",
        []⟩ := by
    decide +kernel
  obtain ⟨t, result, after, goes, isFetched⟩ := served_goes rfl rfl reads (answers policy) ()
  obtain ⟨guarded, adds, _⟩ := (pass_guarded served (.inr ⟨.standard, rfl⟩) policy .fresh after t
    result goes).2 _ _ _ isFetched
  obtain ⟨e, name, writes, named, same⟩ :=
    guarded.marks (by decide) rfl ⟨"rules", _, rfl, by decide, address⟩
  cases named
  exact ⟨adds, t, e, writes, same⟩

/-- What a pass does after it has fetched a policy whose name makes no address. -/
def misnamedRest : Transcript world :=
  ((served.finalize "default" (unmarked "a b" "default" [])).run .fresh).transcript
    (answers (unmarked "a b" "default" [])) ()

/-- It is not so that a pass over any policy with a name that is not being deleted and does not
carry the mark writes exactly one thing: a policy whose name makes no address is not written. -/
theorem pass_writes_nothing_misnamed :
    ¬ ∀ (setting : Setting), (setting.lookUp = PeerFirewall.lookUp ∨
        ∃ info : ClusterInfo, setting.lookUp = info.read) →
      ∀ (queued : Policy) (ledger after : Ledger) (t : Transcript world)
        (result : Except PassError Action),
      ((setting.pass queued).run ledger).Goes t (result, after) →
      ∀ space fetched rest, queued.Fetched space fetched t rest →
        Finalizer.place? fetched.metadata = none → fetched.metadata.deletionTimestamp = none →
        (∃ name, fetched.metadata.name = some name ∧ name ≠ "") →
        ∃ e, t.writes = [e] := by
  intro always
  have reads : (Store.reply (unmarked "a b" "default" []).encode).read Policy.decode =
      .ok (unmarked "a b" "default" []) := by
    decide +kernel
  have nothing : misnamedRest = [] := List.isEmpty_iff.1 (by decide +kernel)
  obtain ⟨t, result, after, goes, isFetched⟩ :=
    served_goes_default reads (answers (unmarked "a b" "default" [])) ()
  obtain ⟨e, writes⟩ := always served (.inr ⟨.standard, rfl⟩) _ .fresh after t result goes
    "default" _ misnamedRest isFetched (by decide) rfl ⟨"a b", rfl, by decide⟩
  obtain ⟨_, _, _, rfl, _⟩ := isFetched
  unfold misnamedRest at nothing
  rw [nothing] at writes
  cases writes

end Setting

end PeerFirewall
