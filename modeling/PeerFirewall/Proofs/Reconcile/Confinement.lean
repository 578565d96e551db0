import PeerFirewall.Proofs.Reconcile.Honesty
import PeerFirewall.Proofs.Reconcile.Reachable

/-!
# A pass writes where its policy belongs only

Rules may name other namespaces, and the state of the cluster is read all over it. Still all that a
pass writes is the policy that it is over, the firewall configuration of the peer in whose tenant
namespace that is, and events there (`Setting.pass_confined`).
-/
namespace PeerFirewall

open ApiCall (objects)

/-- Whether a request writes what belongs to the policy of that name in a tenant namespace. -/
inductive Request.KeepsTo (tenants : Tenants) (space name : String) : Request → Prop where
  /-- The policy is patched. -/
  | policyPatched {format : PatchFormat} {query : List (String × String)} {body : Option Json} :
      KeepsTo tenants space name
        ⟨.patch format, .object (objects Policy (some space)) name, query, body⟩
  /-- Its status is patched. -/
  | statusPatched {format : PatchFormat} {query : List (String × String)} {body : Option Json} :
      KeepsTo tenants space name
        ⟨.patch format, .status (objects Policy (some space)) name, query, body⟩
  /-- The firewall configuration of the peer is stored there under its name, as it says itself. -/
  | firewallCreated {clusterId : String} {query : List (String × String)} {object : Json}
      (isPeer : tenants.clusterId space = .ok clusterId)
      (named : object.metadata.get? "name" =
        some (.str (ClusterInfo.firewallName clusterId)))
      (home : object.metadata.get? "namespace" = some (.str space)) :
      KeepsTo tenants space name
        ⟨.post, .collection (objects Firewall (some space)), query, some object⟩
  /-- It is replaced. -/
  | firewallReplaced {clusterId : String} {query : List (String × String)} {body : Option Json}
      (isPeer : tenants.clusterId space = .ok clusterId) :
      KeepsTo tenants space name ⟨.put, .object (objects Firewall (some space))
        (ClusterInfo.firewallName clusterId), query, body⟩
  /-- It is deleted. -/
  | firewallDeleted {clusterId : String} {query : List (String × String)} {body : Option Json}
      (isPeer : tenants.clusterId space = .ok clusterId) :
      KeepsTo tenants space name ⟨.delete, .object (objects Firewall (some space))
        (ClusterInfo.firewallName clusterId), query, body⟩
  /-- An event is stored there. -/
  | eventCreated {query : List (String × String)} {body : Option Json} :
      KeepsTo tenants space name ⟨.post, .collection ⟨.event, some space⟩, query, body⟩
  /-- An event there is patched. -/
  | eventPatched {format : PatchFormat} {event : String} {query : List (String × String)}
      {body : Option Json} :
      KeepsTo tenants space name
        ⟨.patch format, .object ⟨.event, some space⟩ event, query, body⟩

namespace Setting

variable {setting : Setting} {space name : String} {policy : Policy} {cache : EventCache}

/-- An event on a policy belongs into the namespace of the policy. -/
theorem announcement_keepsTo (filed : cache.Filed) (home : policy.metadata.namespace = some space)
    (content : EventNote) (now : Time.Instant) :
    (setting.announcement cache policy content now).request.KeepsTo setting.info.tenants space
      name := by
  have belongs : (setting.announcement cache policy content now).key =
      Stepwise.eventKey policy content := key_announcement filed content now
  generalize setting.announcement cache policy content now = event at belongs ⊢
  have about : event.subject = .ofMetadata .policy policy.metadata :=
    congrArg EventKey.subject belongs
  have there : event.collection = ⟨.event, some space⟩ := by
    rw [ClusterEvent.collection, about, EventSubject.ofMetadata, home, Option.getD_some]
  unfold ClusterEvent.request
  rw [there]
  cases event.series with
  | none => exact .eventCreated
  | some series => exact .eventPatched

/-- What a pass may ask once it has fetched a policy only reads or keeps to that policy. -/
theorem MayAsk.keepsTo {request : Request}
    (mayAsk : setting.MayAsk WorldQuestion.IsSurvey cache space policy (.send request))
    (filed : cache.Filed) (named : policy.metadata.name = some name)
    (home : policy.metadata.namespace = some space) :
    request.method = .get ∨ request.KeepsTo setting.info.tenants space name := by
  have displayed : policy.metadata.displayName = name := by
    rw [Metadata.displayName, named, Option.getD_some]
  cases mayAsk with
  | look survey => exact .inl survey.1
  | firewallRead isPeer => exact .inl rfl
  | @firewallCreated clusterId spec desired isPeer built =>
    have there := Firewall.namespace_encode_desired built
    rw [home] at there
    exact .inr (.firewallCreated isPeer (Firewall.name_encode_desired built) there)
  | firewallReplaced isPeer updated => exact .inr (.firewallReplaced isPeer)
  | firewallDeleted isPeer => exact .inr (.firewallDeleted isPeer)
  | statusWritten marked kept outcome now =>
    rw [Policy.statusRequest, displayed]
    exact .inr .statusPatched
  | finalizersPatched namedToo others patch =>
    cases named.symm.trans namedToo
    exact .inr .policyPatched
  | announced content now => exact .inr (announcement_keepsTo filed home content now)

/-- In a namespace that names no peer a pass may ask nothing of firewall configurations. -/
theorem MayAsk.noFirewall {request : Request} {error : ClusterIdError}
    (mayAsk : setting.MayAsk WorldQuestion.IsSurvey cache space policy (.send request))
    (noPeer : setting.info.tenants.clusterId space = .error error) :
    request.endpoint.concerns .firewall = false := by
  cases mayAsk with
  | look survey => exact Request.not_concerns_of_survey survey (by decide)
  | firewallRead isPeer | firewallCreated isPeer | firewallReplaced isPeer
  | firewallDeleted isPeer => cases noPeer.symm.trans isPeer
  | statusWritten | finalizersPatched =>
    exact decide_eq_false (show Kind.policy ≠ .firewall by decide)
  | announced content now => exact (ClusterEvent.isAside_request _).noFirewall

/-- A pass reads the clock first, and goes no further unless the instance holds the lease then. -/
theorem pass_begins {queued : Policy} {ledger after : Ledger} {t : Transcript world}
    {result : Except PassError Action}
    (goes : ((setting.pass queued).run ledger).Goes t (result, after)) :
    ∃ now rest, t = WorldStep.clock now :: rest ∧
      (setting.leadership.isCurrent now = false → rest = []) := by
  unfold pass at goes
  rw [Program.run_stateT_lift_bind, Program.goes_bind] at goes
  obtain ⟨_, rest, now, rfl, ⟨now, _, rfl, rfl, rfl⟩, goes⟩ := goes
  refine ⟨now, rest, rfl, fun notHeld => ?_⟩
  rw [if_neg (by simp [notHeld])] at goes
  exact goes.1

/-- Whether a pass over the policy of that name in a tenant namespace writes only what belongs to
that policy. -/
structure Confined (setting : Setting) (space name : String) (t : Transcript world) : Prop where
  /-- All that is written belongs to the policy. -/
  keepsTo : ∀ e ∈ Transcript.sent t,
    e.request.method = .get ∨ e.request.KeepsTo setting.info.tenants space name
  /-- Where the namespace names no peer, firewall configurations are not even read. -/
  peerless : ∀ error, setting.info.tenants.clusterId space = .error error →
    ∀ e ∈ Transcript.sent t, e.request.endpoint.concerns .firewall = false
  /-- An instance that does not hold the lease at the start sends nothing. -/
  unleased : ∃ now rest, t = WorldStep.clock now :: rest ∧
    (setting.leadership.isCurrent now = false → Transcript.sent t = [])

/-- Wherever the state of the cluster comes from, and whatever a pass is answered, it writes only
what belongs to its policy, if the policies that it is answered have the name and the namespace that
it asks for. -/
theorem pass_confined (setting : Setting)
    (source : setting.lookUp = PeerFirewall.lookUp ∨
      ∃ info : ClusterInfo, setting.lookUp = info.read)
    (queued : Policy) (space : String) (home : queued.metadata.namespace = some space)
    (ledger after : Ledger) (reachable : ledger.Reachable) (t : Transcript world)
    (result : Except PassError Action)
    (goes : ((setting.pass queued).run ledger).Goes t (result, after))
    (asAsked : ∀ fetched rest, queued.Fetched space fetched t rest →
      fetched.metadata.name = some queued.metadata.displayName ∧
        fetched.metadata.namespace = some space) :
    setting.Confined space queued.metadata.displayName t := by
  have surveys := surveys_of_source source
  have noFirewall (space name : String) :
      (ApiCall.readRequest Policy space name).endpoint.concerns .firewall = false :=
    decide_eq_false (show Kind.policy ≠ .firewall by decide)
  obtain ⟨now, begun, starts, unleased⟩ := pass_begins goes
  have unleased : ∃ now rest, t = WorldStep.clock now :: rest ∧
      (setting.leadership.isCurrent now = false → Transcript.sent t = []) := by
    refine ⟨now, begun, starts, fun notHeld => ?_⟩
    rw [starts, unleased notHeld]
    rfl
  rcases pass_goes goes with unfetched | ⟨_, fetched, rest, _, isFetched, finalizes, _⟩
  · refine ⟨fun e member => ?_, fun _ _ e member => ?_, unleased⟩
    · obtain ⟨_, same⟩ := unfetched.reads e member
      exact .inl (same ▸ rfl)
    · obtain ⟨_, same⟩ := unfetched.reads e member
      exact same ▸ noFirewall _ _
  · cases home.symm.trans isFetched.1
    obtain ⟨named, homeToo⟩ := asAsked fetched rest isFetched
    have asks := Transcript.sent_of_asks (finalize_mayAsk surveys).asks finalizes
    obtain ⟨_, now, reply, rfl, _⟩ := isFetched
    refine ⟨List.forall_mem_cons.2 ⟨.inl rfl, fun e member => ?_⟩,
      fun error noPeer => List.forall_mem_cons.2 ⟨noFirewall _ _, fun e member => ?_⟩, unleased⟩
    · exact (asks e member).keepsTo reachable.filed named homeToo
    · exact (asks e member).noFirewall noPeer

/-! ### A rule about another namespace -/

/-- A policy with a rule about the pods of another namespace. -/
def reaching : Policy :=
  { marked "rules" "liqo-tenant-c" with spec := ⟨[⟨.allow, some (.ofNamespace "web"), none⟩]⟩ }

/-- Answers to a pass: the policy is as it is, there are no pods, no firewall configuration is
stored, and whatever is written is stored. -/
def reachingAnswers (question : world.Question) (s : Unit) : world.Answer question × Unit :=
  match question with
  | .send request =>
    if request.endpoint.concerns .pod then (Store.reply (.obj [("items", .arr [])]), s)
    else answers reaching (.send request) s
  | .clock => answers reaching .clock s
  | .look query => answers reaching (.look query) s

/-- What a pass over the policy does after it has fetched it. -/
def reachingRest : Transcript world :=
  ((served.finalize "liqo-tenant-c" reaching).run .fresh).transcript reachingAnswers ()

/-- A pass over a policy with a rule about another namespace lists the pods there and stores the
firewall configuration where the policy is. -/
theorem pass_confined_reaching :
    ∃ t rest, reaching.Fetched "liqo-tenant-c" reaching t rest ∧
      (Transcript.sent rest).any
        (fun e => e.request.endpoint = .collection (objects Pod (some "web"))) ∧
      (Transcript.sent rest).any
        (fun e => e.request.method = .post && e.request.endpoint.concerns .firewall) ∧
      served.Confined "liqo-tenant-c" "rules" t := by
  have reads : (Store.reply reaching.encode).read Policy.decode = .ok reaching := by
    decide +kernel
  obtain ⟨t, result, after, goes, isFetched⟩ := served_goes rfl rfl reads reachingAnswers ()
  refine ⟨t, reachingRest, isFetched, by decide +kernel, by decide +kernel, ?_⟩
  refine pass_confined served (.inr ⟨.standard, rfl⟩) reaching "liqo-tenant-c" rfl .fresh after
    .fresh t result goes fun fetched rest isFetchedToo => ?_
  obtain ⟨_, rfl, _⟩ := isFetched.unique isFetchedToo
  exact ⟨rfl, rfl⟩

end Setting

end PeerFirewall
