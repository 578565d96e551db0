import PeerFirewall.Proofs.Reconcile.Visibility

/-!
# A pass that cannot compile leaves the firewall alone

The rules of a policy may not compile at any point, after any number of readings, and a policy
without a name or an identity cannot own what they compile to. A pass over such a policy sends
nothing about firewall configurations, tells of the failure on the status and by an event, and ends
with just that failure (`Setting.pass_leaves_firewall`).
-/
namespace PeerFirewall

namespace Policy

variable {policy : Policy} {clusterId : String} {spec : FirewallSpec}

/-- A policy without a name or an identity can own nothing. -/
theorem desiredFirewall_of_anonymous
    (anonymous : policy.metadata.name = none ∨ policy.metadata.uid = none) :
    policy.desiredFirewall clusterId spec = .error (.missingUid policy.metadata.displayName) := by
  have ownerless : Resource.controllerReference? .policy policy.metadata = none := by
    unfold Resource.controllerReference?
    rcases anonymous with unnamed | unidentified
    · rw [unnamed]
    · rw [unidentified]
      cases policy.metadata.name <;> rfl
  rw [desiredFirewall, desiredFirewall?, ownerless]
  rfl

end Policy

namespace Setting

variable {setting : Setting} {space : String} {policy : Policy} {cache : EventCache}

/-- Whether nothing comes of the rules of a policy after these readings, and why. -/
inductive Uncompiled (setting : Setting) (space : String) (policy : Policy) :
    Transcript world → SyncError → Prop where
  /-- The namespace names no peer. -/
  | noPeer {error : ClusterIdError}
      (noPeer : setting.info.tenants.clusterId space = .error error) :
      Uncompiled setting space policy [] (.clusterId error)
  /-- The rules do not compile. -/
  | faulty {clusterId : String} {reading : Transcript world} {error : CompileError}
      (isPeer : setting.info.tenants.clusterId space = .ok clusterId)
      (compiles : (setting.compile clusterId policy).Goes reading (.error error)) :
      Uncompiled setting space policy reading (.compile error)
  /-- The policy cannot own what they compile to. -/
  | ownerless {clusterId : String} {reading : Transcript world} {spec : FirewallSpec}
      (isPeer : setting.info.tenants.clusterId space = .ok clusterId)
      (compiles : (setting.compile clusterId policy).Goes reading (.ok spec))
      (anonymous : policy.metadata.name = none ∨ policy.metadata.uid = none) :
      Uncompiled setting space policy reading (.upsert (.missingUid policy.metadata.displayName))

variable {reading bringing later rest : Transcript world} {error : SyncError}

/-- Where nothing comes of the rules, just that is what bringing the firewall configuration up to
date comes to, and it asks no more. -/
theorem Uncompiled.unique (uncompiled : setting.Uncompiled space policy reading error)
    {result : Except SyncError WriteOperation}
    (brings : setting.Brings space policy bringing result)
    (same : reading ++ later = bringing ++ rest) : reading = bringing ∧ result = .error error := by
  cases uncompiled with
  | noPeer noPeer =>
    cases brings with
    | noPeer noPeerToo =>
      cases noPeer.symm.trans noPeerToo
      exact ⟨rfl, rfl⟩
    | uncompiled isPeer | unowned isPeer | upserted isPeer => cases noPeer.symm.trans isPeer
  | faulty isPeer compiles =>
    cases brings with
    | noPeer noPeer => cases isPeer.symm.trans noPeer
    | uncompiled isPeerToo compilesToo =>
      cases isPeer.symm.trans isPeerToo
      obtain ⟨rfl, sameError⟩ := compiles.unique compilesToo same
      cases sameError
      exact ⟨rfl, rfl⟩
    | unowned isPeerToo compilesToo =>
      cases isPeer.symm.trans isPeerToo
      cases (compiles.unique compilesToo same).2
    | upserted isPeerToo compilesToo =>
      cases isPeer.symm.trans isPeerToo
      rw [List.append_assoc] at same
      cases (compiles.unique compilesToo same).2
  | ownerless isPeer compiles anonymous =>
    cases brings with
    | noPeer noPeer => cases isPeer.symm.trans noPeer
    | uncompiled isPeerToo compilesToo =>
      cases isPeer.symm.trans isPeerToo
      cases (compiles.unique compilesToo same).2
    | unowned isPeerToo compilesToo ownerless =>
      cases isPeer.symm.trans isPeerToo
      obtain ⟨rfl, _⟩ := compiles.unique compilesToo same
      cases (Policy.desiredFirewall_of_anonymous anonymous).symm.trans ownerless
      exact ⟨rfl, rfl⟩
    | @upserted other spec desired _ _ _ _ _ built =>
      have ownerless : policy.desiredFirewall other spec = .error _ :=
        Policy.desiredFirewall_of_anonymous anonymous
      rw [Policy.desiredFirewall, built] at ownerless
      cases ownerless

/-- Where bringing the firewall configuration up to date ends with a fault of the rules, nothing
comes of them. -/
theorem Brings.isUncompiled {fault : CompileError}
    (brings : setting.Brings space policy bringing (.error (.compile fault))) :
    setting.Uncompiled space policy bringing (.compile fault) := by
  generalize same : Except.error (SyncError.compile fault) = result at brings
  cases brings with
  | noPeer | unowned => cases same
  | uncompiled isPeer compiles =>
    cases same
    exact .faulty isPeer compiles
  | @upserted _ _ _ _ _ written =>
    cases written <;> cases same

/-- The requests of a pass that leaves the firewall alone because of a failure: it reads, then it
writes the status of the policy once at most, and then it publishes one event. -/
structure TellsOnly (setting : Setting) (cache : EventCache) (space : String) (policy : Policy)
    (error : SyncError) (t : Transcript world) : Prop where
  /-- Nothing is sent about firewall configurations. -/
  noFirewall : ∀ e ∈ Transcript.sent t, e.request.endpoint.concerns .firewall = false
  /-- The event is left out only if its request makes no address. -/
  tells : ∃ read written told, Transcript.sent t = read ++ (written ++ told) ∧
    (∀ e ∈ read, e.request.isRead) ∧
    (written = [] ∨ ∃ now reply, written = [⟨policy.statusRequest space
      (.afterPass policy.status policy.metadata.generation error.outcome now), reply⟩]) ∧
    ∃ now, WorldStep.clock now ∈ t ∧
      let event := setting.announcement cache policy (.failed error.outcome.message) now
      (∃ reply, told = [⟨event.request, reply⟩]) ∨
        told = [] ∧ ∃ fault, event.request.uri? = .error fault

/-- What is asked while nothing comes of the rules only looks at the state of the cluster. -/
theorem Uncompiled.surveys (surveys : setting.Surveys)
    (uncompiled : setting.Uncompiled space policy reading error) :
    ∀ e ∈ Transcript.sent reading, WorldQuestion.IsSurvey (.send e.request) := by
  cases uncompiled with
  | noPeer => exact List.forall_mem_nil _
  | faulty isPeer compiles | ownerless isPeer compiles =>
    exact Transcript.sent_of_asks (asks_compile surveys _) compiles

/-- A status is written by one request, if at all. -/
theorem sent_updateStatus {outcome : Outcome} {writing : Transcript world}
    {written : Except ApiError Unit}
    (writes : (policy.updateStatus space outcome).run.Goes writing written) :
    Transcript.sent writing = [] ∨ ∃ now reply, Transcript.sent writing =
      [⟨policy.statusRequest space
        (.afterPass policy.status policy.metadata.generation outcome now), reply⟩] := by
  obtain ⟨now, rest, rfl, ⟨_, rfl, _⟩ | ⟨rfl, _⟩ | ⟨reply, rfl⟩⟩ :=
    Policy.updateStatus_goes writes
  · exact .inl rfl
  · exact .inl rfl
  · exact .inr ⟨now, reply, rfl⟩

/-- An announcement is one request, unless that makes no address. -/
theorem Announces.sent_eq {content : EventNote} {telling : Transcript world}
    (tells : setting.Announces cache policy content telling) :
    ∃ now, WorldStep.clock now ∈ telling ∧
      let event := setting.announcement cache policy content now
      (∃ reply, Transcript.sent telling = [⟨event.request, reply⟩]) ∨
        Transcript.sent telling = [] ∧ ∃ fault, event.request.uri? = .error fault := by
  cases tells with
  | sent now reply => exact ⟨now, List.mem_cons_self, .inl ⟨reply, rfl⟩⟩
  | unaddressed now noAddress => exact ⟨now, List.mem_cons_self, .inr ⟨rfl, _, noAddress⟩⟩

/-- Dealing with a policy that is there to stay, of whose rules nothing comes, only tells of that,
which is how it ends. -/
theorem Uncompiled.tellsOnly (surveys : setting.Surveys)
    (uncompiled : setting.Uncompiled space policy reading error)
    {applied : Except SyncError Action}
    (applies : setting.Applies cache space policy (reading ++ later) applied) :
    applied = .error error ∧ setting.TellsOnly cache space policy error (reading ++ later) := by
  generalize same : reading ++ later = asked at applies ⊢
  cases applies with
  | synced brings => cases (uncompiled.unique brings same).2
  | @failed _ writing telling _ _ brings writes tells =>
    obtain ⟨rfl, sameError⟩ := uncompiled.unique brings same
    cases sameError
    have reads := uncompiled.surveys surveys
    refine ⟨rfl, ?_, ?_⟩
    · simp only [Transcript.sent_append, List.forall_mem_append]
      exact ⟨fun e member => Request.not_concerns_of_survey (reads e member) (by decide),
        Policy.updateStatus_noFirewall writes, fun e member => (tells.isAside e member).noFirewall⟩
    · obtain ⟨now, isRead, told⟩ := tells.sent_eq
      refine ⟨Transcript.sent reading, _, _, by simp only [Transcript.sent_append],
        fun e member => ?_, sent_updateStatus writes, now, ?_, told⟩
      · exact decide_eq_true (reads e member).1
      · exact List.mem_append_right _ (List.mem_append_right _ isRead)

/-- Fetching the policy before makes no difference. -/
theorem TellsOnly.of_fetched {queued : Policy} {t : Transcript world}
    (isFetched : queued.Fetched space policy t rest)
    (tellsOnly : setting.TellsOnly cache space policy error rest) :
    setting.TellsOnly cache space policy error t := by
  obtain ⟨_, before, reply, rfl, _⟩ := isFetched
  obtain ⟨read, written, told, asked, reads, writes, now, isRead, tells⟩ := tellsOnly.tells
  constructor
  · exact List.forall_mem_cons.2
      ⟨decide_eq_false (show Kind.policy ≠ .firewall by decide), tellsOnly.noFirewall⟩
  · refine ⟨_ :: read, written, told, congrArg (_ :: ·) asked, List.forall_mem_cons.2 ⟨rfl, reads⟩,
      writes, now, ?_, tells⟩
    exact List.mem_cons_of_mem _ (List.mem_cons_of_mem _ isRead)

/-- Wherever the state of the cluster comes from, and whatever a pass is answered, it leaves the
firewall alone if nothing comes of the rules of the policy that it has fetched: it only tells of the
failure, and ends with it. -/
theorem pass_leaves_firewall (setting : Setting)
    (source : setting.lookUp = PeerFirewall.lookUp ∨
      ∃ info : ClusterInfo, setting.lookUp = info.read)
    (queued fetched : Policy) (space : String) (ledger after : Ledger)
    (t reading later : Transcript world) (result : Except PassError Action) (error : SyncError)
    (goes : ((setting.pass queued).run ledger).Goes t (result, after))
    (isFetched : queued.Fetched space fetched t (reading ++ later)) (stays : fetched.Stays)
    (uncompiled : setting.Uncompiled space fetched reading error) :
    result = .error (.finalizer (.applyFailed error)) ∧
      setting.TellsOnly ledger.events space fetched error t := by
  rcases pass_goes goes with unfetched | ⟨_, _, _, _, isFetchedToo, finalizes, rfl⟩
  · exact absurd isFetched (unfetched.unfetched _ _ _)
  obtain ⟨rfl, rfl, rfl⟩ := isFetched.unique isFetchedToo
  obtain ⟨applied, applies, rfl⟩ := finalize_goes stays finalizes
  obtain ⟨rfl, tellsOnly⟩ := uncompiled.tellsOnly (surveys_of_source source) applies
  exact ⟨rfl, tellsOnly.of_fetched isFetched⟩

/-! ### Two policies of whose rules nothing comes -/

/-- A policy with a rule about a namespace. -/
def aboutShop : Policy :=
  { marked "rules" "liqo-tenant-c" with spec := ⟨[⟨.allow, some (.ofNamespace "shop"), none⟩]⟩ }

/-- Why its rules do not compile where the pods of a namespace are not found. -/
def shopUnread : CompileError :=
  .unresolved "namespace shop" ⟨"failed to list pods",
    ["ApiError: NotFound: NotFound (ErrorResponse \x7b status: \"Failure\", " ++
      "message: \"NotFound\", reason: \"NotFound\", code: 404 \x7d)", "NotFound: NotFound"]⟩

/-- A pass that cannot read the pods of a namespace leaves the firewall alone. -/
theorem pass_leaves_firewall_unread :
    ∃ t later, aboutShop.Fetched "liqo-tenant-c" aboutShop t later ∧
      served.TellsOnly .empty "liqo-tenant-c" aboutShop (.compile shopUnread) t := by
  have reads : (Store.reply aboutShop.encode).read Policy.decode = .ok aboutShop := by
    decide +kernel
  have fails : (((served.finalize "liqo-tenant-c" aboutShop).run .fresh).run
      (answers aboutShop) ()).1.1 = .error (.applyFailed (.compile shopUnread)) := by
    decide +kernel
  obtain ⟨t, after, goes, isFetched⟩ := served_fails rfl rfl reads (answers aboutShop) () fails
  have stays : aboutShop.Stays := ⟨by decide, rfl⟩
  have deals := Program.goes_run (answers aboutShop)
    ((served.finalize "liqo-tenant-c" aboutShop).run .fresh) ()
  obtain ⟨applied, applies, ends⟩ := finalize_goes stays deals
  rw [fails] at ends
  generalize ((served.finalize "liqo-tenant-c" aboutShop).run .fresh).transcript
    (answers aboutShop) () = rest at isFetched applies
  cases applies with
  | @synced _ _ _ _ written =>
    cases written <;> cases ends
  | failed brings =>
    cases ends
    exact ⟨t, _, isFetched, (pass_leaves_firewall served (.inr ⟨.standard, rfl⟩) aboutShop
      aboutShop "liqo-tenant-c" .fresh after t _ _ _ _ goes isFetched stays
      brings.isUncompiled).2⟩

/-- What a pass does after it has fetched a policy about whose namespace no event can be told. -/
def misplacedRest : Transcript world :=
  ((served.finalize "default" (marked "rules" "a b")).run .fresh).transcript
    (answers (marked "rules" "a b")) ()

/-- It is not so that a pass of whose rules nothing comes always sends exactly one request about
events: where the namespace that the policy gives makes no address, it sends none. -/
theorem pass_tells_nothing_misplaced :
    ¬ ∀ (setting : Setting), (setting.lookUp = PeerFirewall.lookUp ∨
        ∃ info : ClusterInfo, setting.lookUp = info.read) →
      ∀ (queued fetched : Policy) (space : String) (ledger after : Ledger)
        (t reading later : Transcript world) (result : Except PassError Action)
        (error : SyncError),
      ((setting.pass queued).run ledger).Goes t (result, after) →
      queued.Fetched space fetched t (reading ++ later) → fetched.Stays →
      setting.Uncompiled space fetched reading error →
      ∃ e, (Transcript.sent t).filter (·.request.endpoint.concerns .event) = [e] := by
  intro always
  have reads : (Store.reply (marked "rules" "a b").encode).read Policy.decode =
      .ok (marked "rules" "a b") := by
    decide +kernel
  have nothing : (Transcript.sent misplacedRest).filter
      (·.request.endpoint.concerns .event) = [] := List.isEmpty_iff.1 (by decide +kernel)
  obtain ⟨t, result, after, goes, isFetched⟩ :=
    served_goes_default reads (answers (marked "rules" "a b")) ()
  have noPeer : served.info.tenants.clusterId "default" =
      .error ⟨"default", "liqo-tenant-"⟩ := by
    decide
  obtain ⟨e, told⟩ := always served (.inr ⟨.standard, rfl⟩) _ _ "default" .fresh after t []
    misplacedRest result _ goes isFetched ⟨by decide, rfl⟩ (.noPeer noPeer)
  obtain ⟨_, _, _, rfl, _⟩ := isFetched
  unfold misplacedRest at nothing
  rw [Transcript.sent_cons_clock, Transcript.sent_cons_sent,
    List.filter_cons_of_neg (by rintro ⟨⟩), nothing] at told
  cases told

end Setting

end PeerFirewall
