import PeerFirewall.Proofs.Reconcile.Reports

/-!
# What a pass may ask

A pass that has fetched a policy looks at the state of the cluster and handles the policy, one
firewall configuration and one event. `Setting.MayAsk` lists the questions that it may ask, whatever
it is answered (`Setting.finalize_mayAsk`), so what holds of each of them holds of all that a pass
asks. For the parts of a pass a lemma says which requests have to be permitted so that the part asks
only what is permitted.
-/
namespace PeerFirewall

/-! ### The state of the cluster -/

namespace Setting

/-- Whether the state of the cluster is read by looking at the objects that tell of it. -/
def Surveys (setting : Setting) : Prop :=
  ∀ query, (setting.lookUp query).Asks WorldQuestion.IsSurvey

variable {setting : Setting}

/-- Where the state of the cluster is read through the API server, it is read so. -/
theorem surveys_read (reads : setting.lookUp = setting.info.read) :
    setting.Surveys := fun query => reads ▸ setting.info.read_surveys query

/-- Wherever the state of the cluster comes from, it is read so. -/
theorem surveys_of_source (source : setting.lookUp = PeerFirewall.lookUp ∨
    ∃ info : ClusterInfo, setting.lookUp = info.read) : setting.Surveys := by
  intro query
  rcases source with looksUp | ⟨info, reads⟩
  · exact looksUp ▸ ⟨trivial, fun _ => trivial⟩
  · exact reads ▸ info.read_surveys query

end Setting

variable {permitted : WorldQuestion → Prop} {space : String}

/-! ### The firewall configuration -/

namespace Firewall

variable {name : String} {desired : Firewall}

/-- Whether the requests are permitted that bring the configuration of a name up to date. -/
structure PermitsUpsert (permitted : WorldQuestion → Prop) (space name : String)
    (desired : Firewall) : Prop where
  read : permitted (.send (readRequest space name))
  create : permitted (.send (createRequest space desired))
  replace : ∀ updated : Firewall, permitted (.send (replaceRequest space name updated))

/-- An attempt to write a firewall configuration reads it, and creates or replaces it. -/
theorem asks_attempt (permits : PermitsUpsert permitted space name desired) :
    (attempt space name desired).run.Asks permitted := by
  unfold attempt
  rw [ExceptT.run_mk, Program.bind_eq_bind]
  refine Program.Asks.bind (ApiCall.asks_get? permits.read) fun found => ?_
  match found with
  | .error error => trivial
  | .ok none =>
    have creates : (ApiCall.create (some space) (ApiCall.writtenBy controllerName)
        desired).run.Asks permitted := ApiCall.asks_send permits.create
    simp only
    rw [map_eq_pure_bind]
    exact creates.bind fun _ => trivial
  | .ok (some current) =>
    simp only
    cases current.merge desired with
    | none => trivial
    | some updated =>
      have replaces : (ApiCall.replace (some space) name (ApiCall.writtenBy controllerName)
          updated).run.Asks permitted :=
        ApiCall.asks_byName (ApiCall.asks_send (permits.replace updated))
      simp only
      rw [map_eq_pure_bind]
      exact replaces.bind fun _ => trivial

/-- Attempts to write a firewall configuration read it, and create or replace it. -/
theorem asks_upsertWithin (permits : PermitsUpsert permitted space name desired)
    (attempts : Nat) : (upsertWithin space name desired attempts).run.Asks permitted := by
  induction attempts with
  | zero => trivial
  | succ attempts ih =>
    rw [upsertWithin]
    refine (asks_attempt permits).bindOk fun operation => ?_
    cases operation with
    | none => exact ih
    | some operation => trivial

/-- The request that deletes the configuration of a name. -/
def deletionRequest («namespace» name : String) : Request :=
  ⟨.delete, .object (ApiCall.objects Firewall (some «namespace»)) name, [], some (.obj [])⟩

/-- Deleting a firewall configuration sends the request for that. -/
theorem asks_remove (permits : permitted (.send (deletionRequest space name))) :
    (remove space name).run.Asks permitted := by
  have deletes : (ApiCall.delete Firewall (some space) name).run.Asks permitted :=
    ApiCall.asks_byName (ApiCall.asks_send permits)
  unfold remove
  rw [ExceptT.run_mk, map_eq_pure_bind]
  exact deletes.bind fun _ => trivial

end Firewall

/-! ### The policy -/

/-- Writing the status of a policy reads the clock and patches that status. -/
theorem Policy.asks_updateStatus {policy : Policy} {outcome : Outcome}
    (permitsClock : permitted .clock)
    (permitsPatch : ∀ now, permitted (.send (policy.statusRequest space
      (.afterPass policy.status policy.metadata.generation outcome now)))) :
    (policy.updateStatus space outcome).run.Asks permitted := by
  rw [updateStatus_eq]
  refine ⟨permitsClock, fun now => ?_⟩
  change Program.Asks _ (if _ then _ else _)
  split
  · trivial
  · rw [map_eq_pure_bind]
    exact Program.Asks.bind (ApiCall.asks_byName (ApiCall.asks_send (permitsPatch now)))
      fun _ => trivial

/-- The request that patches the finalizers of the policy of a name. -/
def Finalizer.request («namespace» name : String) (patch : Json) : Request :=
  ⟨.patch .json, .object (ApiCall.objects Policy (some «namespace»)) name, [], some patch⟩

namespace Setting

variable {setting : Setting} {policy : Policy} {clusterId : String}

/-- A patch of the finalizers of a policy sends the request for that. -/
theorem asks_patchFinalizers {name : String} {patch : Json}
    (permits : permitted (.send (Finalizer.request space name patch))) :
    (patchFinalizers space name patch).Asks permitted :=
  ApiCall.asks_byName (ApiCall.asks_send permits)

/-- Compiling asks what looking at the state of the cluster asks. -/
theorem asks_compile (looks : ∀ query, (setting.lookUp query).Asks permitted)
    (clusterId : String) : (setting.compile clusterId policy).Asks permitted :=
  Program.asks_answeredBy looks _

/-- Bringing a firewall configuration up to date looks at the state of the cluster and then reads
the configuration, and creates or replaces it. -/
theorem asks_sync (looks : ∀ query, (setting.lookUp query).Asks permitted)
    (permits : ∀ spec desired, policy.desiredFirewall? clusterId spec = some desired →
      Firewall.PermitsUpsert permitted space (ClusterInfo.firewallName clusterId) desired) :
    (setting.sync space clusterId policy).Asks permitted := by
  unfold sync
  rw [Program.bind_eq_bind]
  refine (asks_compile looks clusterId).bind fun compiled => ?_
  cases compiled with
  | error error => trivial
  | ok spec =>
    simp only [Policy.desiredFirewall]
    cases built : policy.desiredFirewall? clusterId spec with
    | none => trivial
    | some desired =>
      have called : desired.metadata.displayName = ClusterInfo.firewallName clusterId := by
        rw [Metadata.displayName, Policy.name_of_desired built, Option.getD_some]
      have upserts : (desired.upsert space).run.Asks permitted := by
        rw [Firewall.upsert, called]
        exact Firewall.asks_upsertWithin (permits spec desired built) _
      simp only
      rw [Program.bind_eq_bind]
      exact upserts.bind fun _ => trivial

/-- Cleaning up sends the request that deletes the firewall configuration of the peer, and leaves
what is kept as it is. -/
theorem cleanup_bounded {ledger : Ledger} (permits : ∀ clusterId,
      setting.info.tenants.clusterId space = .ok clusterId → permitted
        (.send (Firewall.deletionRequest space (ClusterInfo.firewallName clusterId)))) :
    ((setting.cleanup space).run ledger).Bounded permitted fun ended => ended.2 = ledger := by
  unfold cleanup
  cases isPeer : setting.info.tenants.clusterId space with
  | error error => exact rfl
  | ok clusterId =>
    simp only
    rw [Program.run_stateT_lift_bind]
    refine (Firewall.asks_remove (permits clusterId isPeer)).bindBounded fun result => ?_
    cases result <;> exact rfl

/-! ### All that is asked -/

/-- What a pass may ask once it has fetched a policy: what looking at the state of the cluster asks,
and what handles the policy, the firewall configuration of its peer and an event on it. -/
inductive MayAsk (setting : Setting) (looks : WorldQuestion → Prop) (cache : EventCache)
    (space : String) (policy : Policy) : WorldQuestion → Prop where
  | clock : MayAsk setting looks cache space policy .clock
  | look {question : WorldQuestion} (isLook : looks question) :
      MayAsk setting looks cache space policy question
  | firewallRead {clusterId : String}
      (isPeer : setting.info.tenants.clusterId space = .ok clusterId) :
      MayAsk setting looks cache space policy
        (.send (Firewall.readRequest space (ClusterInfo.firewallName clusterId)))
  | firewallCreated {clusterId : String} {spec : FirewallSpec} {desired : Firewall}
      (isPeer : setting.info.tenants.clusterId space = .ok clusterId)
      (built : policy.desiredFirewall? clusterId spec = some desired) :
      MayAsk setting looks cache space policy (.send (Firewall.createRequest space desired))
  | firewallReplaced {clusterId : String}
      (isPeer : setting.info.tenants.clusterId space = .ok clusterId) (updated : Firewall) :
      MayAsk setting looks cache space policy
        (.send (Firewall.replaceRequest space (ClusterInfo.firewallName clusterId) updated))
  | firewallDeleted {clusterId : String}
      (isPeer : setting.info.tenants.clusterId space = .ok clusterId) :
      MayAsk setting looks cache space policy
        (.send (Firewall.deletionRequest space (ClusterInfo.firewallName clusterId)))
  /-- The status is written only of a policy that is there to stay. -/
  | statusWritten (marked : Finalizer.place? policy.metadata ≠ none)
      (kept : policy.metadata.deletionTimestamp = none) (outcome : Outcome)
      (now : Time.Instant) :
      MayAsk setting looks cache space policy (.send (policy.statusRequest space
        (.afterPass policy.status policy.metadata.generation outcome now)))
  /-- The finalizers are changed only of a policy that is not there to stay, or not yet. -/
  | finalizersPatched {name : String} (named : policy.metadata.name = some name)
      (others : Finalizer.place? policy.metadata = none ∨
        policy.metadata.deletionTimestamp ≠ none) (patch : Json) :
      MayAsk setting looks cache space policy (.send (Finalizer.request space name patch))
  | announced (content : EventNote) (now : Time.Instant) :
      MayAsk setting looks cache space policy
        (.send (setting.announcement cache policy content now).request)

variable {looks : WorldQuestion → Prop} {cache : EventCache} {ledger : Ledger}

/-- Writing the status of a policy that is there to stay may be asked. -/
theorem updateStatus_mayAsk (marked : Finalizer.place? policy.metadata ≠ none)
    (kept : policy.metadata.deletionTimestamp = none) (outcome : Outcome) :
    (policy.updateStatus space outcome).run.Asks
      (setting.MayAsk looks cache space policy) :=
  Policy.asks_updateStatus .clock fun now => .statusWritten marked kept outcome now

/-- Bringing the firewall configuration of the peer up to date may be asked. -/
theorem sync_mayAsk (asksLooks : ∀ query, (setting.lookUp query).Asks looks)
    (isPeer : setting.info.tenants.clusterId space = .ok clusterId) :
    (setting.sync space clusterId policy).Asks (setting.MayAsk looks cache space policy) :=
  asks_sync (fun query => (asksLooks query).imp fun _ => .look) fun _ _ built =>
    ⟨.firewallRead isPeer, .firewallCreated isPeer built, .firewallReplaced isPeer⟩

/-- Announcing something on the policy may be asked. -/
theorem announce_mayAsk (content : EventNote) :
    ((setting.announce policy content).run ledger).Bounded
      (setting.MayAsk looks ledger.events space policy) fun ended =>
        ledger.LeavesInPlace ended.2 :=
  announce_bounded content .clock (.announced content)

/-- Reporting a failure on a policy that is there to stay may be asked. -/
theorem reportFailure_mayAsk (marked : Finalizer.place? policy.metadata ≠ none)
    (kept : policy.metadata.deletionTimestamp = none) (outcome : Outcome) :
    ((setting.reportFailure space policy outcome).run ledger).Bounded
      (setting.MayAsk looks ledger.events space policy) fun ended =>
        ledger.LeavesInPlace ended.2 := by
  unfold reportFailure
  rw [Program.run_stateT_lift_bind]
  exact (updateStatus_mayAsk marked kept outcome).bindBounded fun _ => announce_mayAsk _

/-- Reporting success on a policy that is there to stay may be asked. -/
theorem reportSuccess_mayAsk (marked : Finalizer.place? policy.metadata ≠ none)
    (kept : policy.metadata.deletionTimestamp = none) :
    (((liftM (policy.updateStatus space .synced).run : Pass _) >>= fun written =>
      match written with
      | .error error => return .error (.api error)
      | .ok () => return .ok (.requeue setting.resync) : Pass (Except SyncError Action)).run
        ledger).Bounded (setting.MayAsk looks cache space policy) fun ended =>
          ledger.LeavesInPlace ended.2 := by
  rw [Program.run_stateT_lift_bind]
  refine (updateStatus_mayAsk marked kept .synced).bindBounded fun written => ?_
  cases written <;> exact .refl ledger

/-- Dealing with a policy that is there to stay may be asked. -/
theorem apply_mayAsk (asksLooks : ∀ query, (setting.lookUp query).Asks looks)
    (marked : Finalizer.place? policy.metadata ≠ none)
    (kept : policy.metadata.deletionTimestamp = none) :
    ((setting.apply space policy).run ledger).Bounded
      (setting.MayAsk looks ledger.events space policy) fun ended =>
        ledger.LeavesInPlace ended.2 := by
  unfold apply
  cases isPeer : setting.info.tenants.clusterId space with
  | error error =>
    simp only
    rw [Program.run_stateT_bind]
    exact (reportFailure_mayAsk marked kept _).bind fun _ leaves => leaves
  | ok clusterId =>
    simp only
    rw [Program.run_stateT_lift_bind]
    refine (sync_mayAsk asksLooks isPeer).bindBounded fun brought => ?_
    cases brought with
    | error error =>
      simp only
      rw [Program.run_stateT_bind]
      exact (reportFailure_mayAsk marked kept _).bind fun _ leaves => leaves
    | ok operation =>
      -- Counting the write leaves the events as they are, so what is announced is as it would be.
      let counted : Ledger := { ledger with metrics := ledger.metrics.wrote operation }
      have counts : ledger.LeavesInPlace counted := ⟨id, rfl⟩
      change Program.Bounded (I := world) (setting.MayAsk looks counted.events space policy) _
        (StateT.run (if _ then _ else _) counted)
      split
      · rw [Program.run_stateT_bind]
        refine (announce_mayAsk _).bind fun ended leaves => ?_
        exact (reportSuccess_mayAsk marked kept).imp (fun _ => id) fun _ later =>
          counts.trans (leaves.trans later)
      · exact (reportSuccess_mayAsk marked kept).imp (fun _ => id) fun _ => counts.trans

/-- Cleaning up may be asked. -/
theorem cleanup_mayAsk :
    ((setting.cleanup space).run ledger).Bounded (setting.MayAsk looks cache space policy)
      fun ended => ledger.LeavesInPlace ended.2 :=
  (cleanup_bounded fun _ isPeer => .firewallDeleted isPeer).imp (fun _ => id) fun _ same =>
    same ▸ .refl ledger

/-- A patch of the finalizers may be asked of a policy that is not there to stay, or not yet. -/
theorem patchFinalizers_mayAsk {name : String} (named : policy.metadata.name = some name)
    (others : Finalizer.place? policy.metadata = none ∨
      policy.metadata.deletionTimestamp ≠ none) (patch : Json) :
    (patchFinalizers space name patch).Asks (setting.MayAsk looks cache space policy) :=
  asks_patchFinalizers (.finalizersPatched named others patch)

/-- A pass that has fetched a policy asks nothing else, whatever it is answered, and leaves what
is kept in its place. -/
theorem finalize_mayAsk (asksLooks : ∀ query, (setting.lookUp query).Asks looks) :
    ((setting.finalize space policy).run ledger).Bounded
      (setting.MayAsk looks ledger.events space policy) fun ended =>
        ledger.LeavesInPlace ended.2 := by
  cases policy.stage with
  | arriving unmarked kept named =>
    rw [finalize_arriving unmarked kept named, Program.run_stateT_lift_bind]
    refine (patchFinalizers_mayAsk named (.inl unmarked) _).bindBounded fun result => ?_
    cases result <;> exact .refl ledger
  | staying marked kept =>
    rw [finalize_staying marked kept, Program.run_stateT_bind]
    exact (apply_mayAsk asksLooks (marked ▸ nofun) kept).bind fun _ leaves => leaves
  | leaving marked deleted named =>
    rw [finalize_leaving marked deleted named, Program.run_stateT_bind]
    refine cleanup_mayAsk.bind fun ended leaves => ?_
    obtain ⟨_ | action, after⟩ := ended
    · exact leaves
    · simp only
      rw [Program.run_stateT_lift_bind]
      refine (patchFinalizers_mayAsk named (.inr deleted) _).bindBounded fun result => ?_
      cases result <;> exact leaves
  | released unmarked deleted =>
    rw [finalize_released unmarked deleted]
    exact .refl ledger
  | unnamed unnamed unsettled =>
    rw [finalize_unnamed unnamed unsettled]
    exact .refl ledger

end Setting

end PeerFirewall
