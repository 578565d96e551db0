import PeerFirewall.Proofs.Compile.Reorder
import PeerFirewall.Proofs.Fabric.Tenant
import PeerFirewall.Proofs.Reconcile.Undisturbed

/-!
# A pass converges

A pass that is alone with a server brings the firewall configuration of the peer and the status of
the policy into a state that the next pass leaves as it is: that pass reads the policy and the
configuration and sends nothing else, whatever the time is and in whatever order pods are listed by
then (`Setting.pass_converges`).
-/
namespace PeerFirewall

variable {around : Surroundings} {scene : Scene} {space clusterId name : String} {policy : Policy}
  {spec : FirewallSpec} {desired : Firewall}

/-- Whether the status of a policy that is stored, and otherwise as it is, tells that the policy is
in force as of its generation. -/
def Server.Tells (server : Server) (space name : String) (policy : Policy) : Prop :=
  ∃ status ready, server.HasPolicy space name { policy with status := some status } ∧
    status.observedGeneration = policy.metadata.generation ∧ status.ready? = some ready ∧
    ready.status = .true ∧ ready.observedGeneration = policy.metadata.generation

namespace Policy

/-- Whether a policy has a name and a namespace. -/
structure IsNamed (policy : Policy) (space name : String) : Prop where
  named : policy.metadata.name = some name
  home : policy.metadata.namespace = some space

/-- The name of a policy is the one to call it by. -/
theorem IsNamed.displayName (isNamed : policy.IsNamed space name) :
    policy.metadata.displayName = name := by
  rw [Metadata.displayName, isNamed.named, Option.getD_some]

/-- Whether a policy is there to stay under a name in a namespace, with an identity and a
generation. -/
structure IsAt (policy : Policy) (space name : String) : Prop
    extends IsNamed policy space name where
  nonempty : name ≠ ""
  identified : policy.metadata.uid.isSome
  counted : policy.metadata.generation.isSome
  stays : policy.Stays

/-- What the status of a policy is does not matter for that. -/
theorem IsAt.withStatus (isAt : policy.IsAt space name) (status : Option PolicyStatus) :
    ({ policy with status } : Policy).IsAt space name where
  named := isAt.named
  home := isAt.home
  nonempty := isAt.nonempty
  identified := isAt.identified
  counted := isAt.counted
  stays := ⟨isAt.stays.marked, isAt.stays.kept⟩

/-- A policy that has a name and an identity can own a configuration. -/
theorem IsAt.desires (isAt : policy.IsAt space name) (clusterId : String) (spec : FirewallSpec) :
    ∃ desired, policy.desiredFirewall? clusterId spec = some desired := by
  obtain ⟨uid, identified⟩ := Option.isSome_iff_exists.1 isAt.identified
  rw [desiredFirewall?, Resource.controllerReference?, isAt.named, identified]
  exact ⟨_, rfl⟩

end Policy

namespace Setting

variable {setting : Setting} {ledger : Ledger}

/-! ### One part of a pass after the other -/

/-- Where the rules compile, the configuration is brought up to date by writing what is desired. -/
theorem run_sync (looksUp : setting.lookUp = PeerFirewall.lookUp)
    (compiles : (setting.resolvers.compile clusterId policy.spec.rules).run.eval
      around.cluster.answer = .ok spec)
    (built : policy.desiredFirewall? clusterId spec = some desired) {operation : WriteOperation}
    {after : Scene}
    (upserts : (desired.upsert space).run.run around.respond scene = (.ok operation, after)) :
    (setting.sync space clusterId policy).run around.respond scene = (.ok operation, after) := by
  rw [sync, Program.bind_eq_bind, Program.run_bind, compile, looksUp, Scene.run_answeredBy,
    compiles]
  simp only [Policy.desiredFirewall, built]
  rw [Program.bind_eq_bind, Program.run_bind, upserts]
  rfl

/-- A pass that reports success ends as writing the status does. -/
theorem run_reportSuccess :
    (((liftM (policy.updateStatus space .synced).run : Pass _) >>= fun written =>
      match written with
      | .error error => return .error (.api error)
      | .ok () => return .ok (.requeue setting.resync)).run ledger).run around.respond scene =
      let written := (policy.updateStatus space .synced).run.run around.respond scene
      ((setting.applied written.1, ledger), written.2) := by
  rw [Program.run_stateT_lift_bind, Program.run_bind]
  generalize (policy.updateStatus space .synced).run.run around.respond scene = written
  obtain ⟨written, after⟩ := written
  cases written <;> rfl

/-- A policy that is there to stay is dealt with by bringing the configuration up to date,
announcing that if it was a change, and writing the status. -/
theorem run_apply (ledger : Ledger) (isPeer : setting.info.tenants.clusterId space = .ok clusterId)
    {operation : WriteOperation} {after : Scene}
    (syncs : (setting.sync space clusterId policy).run around.respond scene =
      (.ok operation, after)) :
    ∃ told kept, (operation.isChange = false → told = after) ∧
      (∀ other : Collection × String, other.1.kind ≠ .event →
        told.server.stored other = after.server.stored other) ∧
      ((setting.apply space policy).run ledger).run around.respond scene =
        let written := (policy.updateStatus space .synced).run.run around.respond told
        ((setting.applied written.1, kept), written.2) := by
  unfold apply
  simp only [isPeer]
  rw [Program.run_stateT_lift_bind, Program.run_bind, syncs]
  let counted : Ledger := { ledger with metrics := ledger.metrics.wrote operation }
  change ∃ told kept, _ ∧ _ ∧
    Program.run _ (StateT.run (if operation.isChange then _ else _) counted) after = _
  cases changes : operation.isChange with
  | false => exact ⟨after, counted, fun _ => rfl, fun _ _ => rfl, run_reportSuccess⟩
  | true =>
    let announced := ((setting.announce policy (.synced operation)).run counted).run
      around.respond after
    refine ⟨announced.2, announced.1.2, nofun, fun other elsewhere => ?_, ?_⟩
    · refine after.stored_run_of_asks ?_ (asks_announce (.synced operation))
      rintro request ⟨event, rfl⟩ isAbout
      have same := Option.some.inj (event.objects?_request.symm.trans isAbout)
      exact elsewhere (congrArg Collection.kind same).symm
    · rw [if_pos rfl, Program.run_stateT_bind, Program.run_bind]
      exact run_reportSuccess

/-- A pass by a current leader fetches the policy and deals with it. -/
theorem run_pass {queued : Policy}
    (isCurrent : setting.leadership.isCurrent (around.clock scene.readings))
    (isQueued : queued.IsNamed space name) (addresses : Addresses space clusterId name)
    (isAt : policy.IsAt space name) (holds : scene.server.HasPolicy space name policy) :
    ((setting.pass queued).run ledger).run around.respond scene =
      let applied := ((setting.apply space policy).run ledger).run around.respond
        (scene.tick.fetched Policy space name)
      ((passResult applied.1.1, applied.1.2), applied.2) := by
  obtain ⟨members, stored, reads⟩ := holds
  have found : (ApiCall.get? (some space) name : ApiCall (Option Policy)).run.run around.respond
      scene.tick = (.ok (some policy), scene.tick.fetched Policy space name) :=
    scene.tick.run_get?_stored isAt.nonempty addresses.policy stored reads
  obtain ⟨place, isPlace⟩ := Option.ne_none_iff_exists'.1 isAt.stays.marked
  unfold pass
  rw [Program.run_stateT_lift_bind, Program.run_bind, Scene.run_readClock]
  simp only [isCurrent, if_true, isQueued.home, isQueued.displayName]
  rw [Program.run_stateT_lift_bind, Program.run_bind, found]
  simp only
  rw [Program.run_stateT_bind, Program.run_bind, finalize_staying isPlace isAt.stays.kept,
    Program.run_stateT_bind, Program.run_bind]
  rfl

/-! ### Whole passes -/

/-- A pass puts what the rules compile to in force and writes on the status that it ended well. -/
theorem run_pass_settles (around : Surroundings) (scene : Scene) (ledger : Ledger)
    (looksUp : setting.lookUp = PeerFirewall.lookUp)
    (isPeer : setting.info.tenants.clusterId space = .ok clusterId)
    (isAt : policy.IsAt space name) (addresses : Addresses space clusterId name)
    (compiles : (setting.resolvers.compile clusterId policy.spec.rules).run.eval
      around.cluster.answer = .ok spec)
    (isCurrent : setting.leadership.isCurrent (around.clock scene.readings)) {queued : Policy}
    (isQueued : queued.IsNamed space name) (holds : scene.server.HasPolicy space name policy)
    (readable : ∀ object, scene.server.stored (firewallKey space clusterId) = some object →
      ∃ current, Firewall.decode object = .ok current) :
    ∃ kept after now,
      ((setting.pass queued).run ledger).run around.respond scene =
        ((.ok (.requeue setting.resync), kept), after) ∧
      after.server.Enforces space clusterId policy spec ∧
      after.server.HasPolicy space name { policy with
        status := some (.afterPass policy.status policy.metadata.generation .synced now) } := by
  obtain ⟨desired, built⟩ := isAt.desires clusterId spec
  obtain ⟨generation, counted⟩ := Option.isSome_iff_exists.1 isAt.counted
  have unread := scene.tick.server_fetched Policy space name
  obtain ⟨operation, between, upserts, enforces, others⟩ :=
    Firewall.run_upsert around addresses built (unread ▸ readable)
  obtain ⟨told, kept, -, elsewhere, applies⟩ := run_apply ledger isPeer
    (run_sync looksUp compiles built upserts)
  have holdsTold : told.server.HasPolicy space name policy := by
    refine holds.of_stored ?_
    rw [elsewhere _ (show Kind.policy ≠ .event by decide),
      others _ (Cluster.policiesOf_ne_firewallsOf space), unread]
    rfl
  obtain ⟨after, writes, holdsAfter, othersAfter⟩ := Policy.run_updateStatus around addresses
    holdsTold isAt.displayName isAt.nonempty counted .synced
  refine ⟨kept, after, _, ?_, ?_, holdsAfter⟩
  · rw [run_pass isCurrent isQueued addresses isAt holds, applies, writes]
    rfl
  · refine enforces.of_stored ?_
    rw [othersAfter _ (Cluster.policiesOf_ne_firewallsOf space).symm,
      elsewhere _ (show Kind.firewall ≠ .event by decide)]

/-- A pass that finds everything as it should be leaves it so: it reads the policy and the
configuration and sends nothing else. -/
theorem run_pass_quiet (setting : Setting) (scene : Scene) (ledger : Ledger)
    (looksUp : setting.lookUp = PeerFirewall.lookUp)
    (isPeer : setting.info.tenants.clusterId space = .ok clusterId)
    (isAt : policy.IsAt space name) (addresses : Addresses space clusterId name)
    (compiles : (setting.resolvers.compile clusterId policy.spec.rules).run.eval
      around.cluster.answer = .ok spec)
    (isCurrent : setting.leadership.isCurrent (around.clock scene.readings)) {queued : Policy}
    (isQueued : queued.IsNamed space name) (holds : scene.server.HasPolicy space name policy)
    (enforces : scene.server.Enforces space clusterId policy spec)
    {before : Option PolicyStatus} {now : Time.Instant}
    (told : policy.status = some (.afterPass before policy.metadata.generation .synced now)) :
    ∃ kept after,
      ((setting.pass queued).run ledger).run around.respond scene =
        ((.ok (.requeue setting.resync), kept), after) ∧
      after.server = scene.server ∧
      after.sent = scene.sent ++ [ApiCall.readRequest Policy space name,
        ApiCall.readRequest Firewall space (ClusterInfo.firewallName clusterId)] := by
  obtain ⟨desired, built⟩ := isAt.desires clusterId spec
  have unread := scene.tick.server_fetched Policy space name
  have upserts := Firewall.run_upsert_enforced around addresses built (unread ▸ enforces)
  obtain ⟨between, kept, unchanged, -, applies⟩ := run_apply ledger isPeer
    (run_sync looksUp compiles built upserts)
  obtain rfl := unchanged rfl
  -- A status that tells how a pass ended tells so at any later time.
  have told : ∀ later, policy.status = some (.afterPass policy.status policy.metadata.generation
      .synced later) := by
    intro later
    rw [told, PolicyStatus.afterPass_afterPass]
  refine ⟨kept, ((scene.tick.fetched Policy space name).fetched Firewall space
    (ClusterInfo.firewallName clusterId)).tick, ?_, ?_, ?_⟩
  · rw [run_pass isCurrent isQueued addresses isAt holds, applies,
      Policy.run_updateStatus_told (told _)]
    rfl
  · exact (Scene.server_fetched _ Firewall space _).trans unread
  · exact List.append_assoc ..

/-- Whatever status a policy has and whatever configuration is stored, if any, a pass of a current
leader that is alone with a server puts what the rules compile to in force and tells so on the
status. A later pass, by whoever leads then, at whatever time and in whatever order pods are listed
then, finds nothing to do. For that the server has to be sent the requests, as it is unless a name
makes no address (`Addresses.of_fits`). -/
theorem pass_converges (setting : Setting) (looksUp : setting.lookUp = PeerFirewall.lookUp)
    (clusterId space name : String) (isCluster : clusterId ≠ "")
    (isTenant : space = setting.info.tenants.namespaceOf clusterId)
    (addresses : Addresses space clusterId name) (server : Server) (policy : Policy)
    (isAt : policy.IsAt space name) (holds : server.HasPolicy space name policy)
    (readable : ∀ object, server.stored (firewallKey space clusterId) = some object →
      ∃ current, Firewall.decode object = .ok current)
    (around : Surroundings) (spec : FirewallSpec)
    (compiles : (setting.resolvers.compile clusterId policy.spec.rules).run.eval
      around.cluster.answer = .ok spec)
    (isCurrent : setting.leadership.isCurrent (around.clock 0)) (queued : Policy)
    (isQueued : queued.IsNamed space name) (ledger : Ledger) :
    let ended := ((setting.pass queued).run ledger).run around.respond ⟨server, 0, []⟩
    ended.1.1 = .ok (.requeue setting.resync) ∧
    ended.2.server.Enforces space clusterId policy spec ∧ ended.2.server.Tells space name policy ∧
    ∀ (leadership : Leadership) (later : Surroundings) (requeued : Policy) (kept : Ledger),
      leadership.isCurrent (later.clock 0) → later.cluster.Reorders around.cluster →
      requeued.IsNamed space name →
      let again := (({ setting with leadership }.pass requeued).run kept).run later.respond
        ⟨ended.2.server, 0, []⟩
      again.1.1 = .ok (.requeue setting.resync) ∧ again.2.server = ended.2.server ∧
      again.2.sent = [ApiCall.readRequest Policy space name,
        ApiCall.readRequest Firewall space (ClusterInfo.firewallName clusterId)] := by
  have isPeer : setting.info.tenants.clusterId space = .ok clusterId :=
    Tenants.clusterId_eq_ok.2 ⟨isCluster, isTenant⟩
  obtain ⟨kept, after, now, runs, enforces, holdsAfter⟩ := run_pass_settles around ⟨server, 0, []⟩
    ledger looksUp isPeer isAt addresses compiles isCurrent isQueued holds readable
  rw [runs]
  refine ⟨rfl, enforces, ?_, ?_⟩
  · exact ⟨_, _, holdsAfter, rfl, PolicyStatus.ready?_afterPass .., rfl, rfl⟩
  · intro leadership later requeued kept isCurrentLater reorders isRequeued
    let settled : Policy := { policy with
      status := some (.afterPass policy.status policy.metadata.generation .synced now) }
    have isStill : settled.IsAt space name := isAt.withStatus _
    have told : settled.status = some (.afterPass policy.status settled.metadata.generation .synced
      now) := rfl
    have recompiles := Resolvers.compile_reorder reorders compiles
    obtain ⟨_, ended, rerun, unchanged, sent⟩ := run_pass_quiet { setting with leadership }
      ⟨after.server, 0, []⟩ kept looksUp isPeer isStill addresses recompiles isCurrentLater
      isRequeued holdsAfter enforces told
    rw [rerun]
    exact ⟨rfl, unchanged, sent⟩

/-- A policy that denies offloaded pods everything is in force after one pass. An hour later, where
the pods are listed the other way round, there is nothing to do. -/
theorem pass_converges_relisted :
    let setting : Setting :=
      { served with resolvers := ⟨[.offloaded], []⟩, lookUp := PeerFirewall.lookUp }
    let policy : Policy := { marked "rules" "liqo-tenant-c" with
      spec := ⟨[⟨.deny, some (.ofGroup .offloaded), none⟩]⟩ }
    let spec : FirewallSpec :=
      ⟨compiledTable [⟨"offloaded", .ipv4Addr, [⟨"10.0.0.1"⟩]⟩]
        [baselineRule, ⟨"allowed-traffic-0", .drop, [.onIp "@offloaded" .src]⟩]⟩
    let server : Server :=
      .set ⟨fun _ => none⟩ (policyKey "liqo-tenant-c" "rules") (some policy.encode)
    let pods : List Pod := [⟨.empty, none, none⟩, ⟨.empty, none, some "10.0.0.1"⟩]
    let listing (pods : List Pod) : SteadyCluster :=
      ⟨fun _ => .error ⟨"unknown", []⟩, fun _ => .ok pods⟩
    let around : Surroundings := ⟨fun _ => ⟨0, 0⟩, listing pods⟩
    let later : Surroundings := ⟨fun _ => ⟨3600, 0⟩, listing pods.reverse⟩
    let ended := ((setting.pass policy).run .fresh).run around.respond ⟨server, 0, []⟩
    let renewed : Setting := { setting with leadership := ⟨⟨"host", ⟨3601, 0⟩⟩, "host"⟩ }
    let again := ((renewed.pass policy).run ended.1.2).run later.respond ⟨ended.2.server, 0, []⟩
    ended.2.server.Enforces "liqo-tenant-c" "c" policy spec ∧
      ended.2.server.Tells "liqo-tenant-c" "rules" policy ∧
      again.2.sent = [ApiCall.readRequest Policy "liqo-tenant-c" "rules",
        ApiCall.readRequest Firewall "liqo-tenant-c" "c-security-fabric"] := by
  intro setting policy spec server pods listing around later
  have addresses : Addresses "liqo-tenant-c" "c" "rules" :=
    .of_fits (by decide) (by decide) (by decide)
  have isNamed : policy.IsNamed "liqo-tenant-c" "rules" := ⟨rfl, rfl⟩
  have isAt : policy.IsAt "liqo-tenant-c" "rules" :=
    ⟨isNamed, by decide, rfl, rfl, by decide, rfl⟩
  have reads : Policy.decode policy.encode = .ok policy := by decide +kernel
  have holds : server.HasPolicy "liqo-tenant-c" "rules" policy :=
    ⟨policy.encode.members, Server.stored_set .., reads⟩
  have absent : server.stored (firewallKey "liqo-tenant-c" "c") = none :=
    Server.stored_set_of_ne _ _ (by decide)
  have readable : ∀ object, server.stored (firewallKey "liqo-tenant-c" "c") = some object →
      ∃ current, Firewall.decode object = .ok current := fun object stored => by
    cases absent.symm.trans stored
  have compiles : (setting.resolvers.compile "c" policy.spec.rules).run.eval
      around.cluster.answer = .ok spec := by
    decide +kernel
  have reorders : later.cluster.Reorders around.cluster := by
    refine ⟨fun _ => rfl, fun _ listed isListed => ?_⟩
    cases isListed
    exact ⟨_, rfl, List.reverse_perm pods⟩
  have converges := pass_converges setting rfl "c" "liqo-tenant-c" "rules" (by decide) (by decide)
    addresses server policy isAt holds readable around spec compiles (by decide) policy isNamed
    .fresh
  -- The pass is not run to compare what is known of it with what is to be shown.
  generalize ((setting.pass policy).run .fresh).run around.respond ⟨server, 0, []⟩ = ended
    at converges ⊢
  obtain ⟨-, enforces, tells, quiet⟩ := converges
  obtain ⟨_, _, sent⟩ := quiet ⟨⟨"host", ⟨3601, 0⟩⟩, "host"⟩ later policy ended.1.2 (by decide)
    reorders isNamed
  exact ⟨enforces, tells, sent⟩

end Setting

end PeerFirewall
