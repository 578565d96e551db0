import PeerFirewall.Proofs.Api.Sent
import PeerFirewall.Proofs.Reconcile.Footing
import PeerFirewall.Proofs.Reconcile.Footprint
import PeerFirewall.Proofs.Reconcile.Overlay

/-!
# A pass is safe

Whatever a pass is answered, and whatever others do between its requests, it writes an owner only
while the policy carries the mark, and it takes the mark away only after the firewall configuration
is deleted (`Scope.safe_turn`). The proof follows the pass: one lemma for each of its parts.
-/
namespace PeerFirewall

namespace Scope

variable {scope : Scope} {footing : Footing} {α β : Type}

/-! ### Programs -/

/-- What is permitted to be asked on a footing. -/
def Harmless (scope : Scope) (footing : Footing) : WorldQuestion → Prop
  | .send request => scope.Permits footing request
  | .clock | .look _ => True

/-- A program that goes on with a second one is safe if the second one is safe wherever the first
one ends. -/
theorem Safe.bind {between : Footing → α → Prop} {after : Footing → β → Prop}
    {p : Program world α} {f : α → Program world β} (safe : scope.Safe between p footing)
    (next : ∀ later a, between later a → scope.Safe after (f a) later) :
    scope.Safe after (p.bind f) footing := by
  induction p generalizing footing with
  | done a => exact next footing a safe
  | ask question next ih =>
    cases question with
    | send request =>
      obtain ⟨permits, lost, served⟩ := safe
      refine ⟨permits, fun reply isLost => ih reply (lost reply isLost), ?_⟩
      intro cluster sound holds elsewhere status
      obtain ⟨later, extend, holdsLater, safeLater⟩ := served cluster sound holds elsewhere status
      exact ⟨later, extend, holdsLater, ih _ safeLater⟩
    | clock => exact fun now => ih now (safe now)
    | look query => exact fun answer => ih answer (safe answer)

/-- What a pass relies on stays true when a permitted request takes effect. -/
theorem Permits.holds {request : Request} (permits : scope.Permits footing request)
    {cluster : Cluster scope.versions} (sound : scope.Sound cluster)
    (holds : scope.Holds footing cluster) (elsewhere : Reply) (status : Json) :
    scope.Holds footing (cluster.serve scope.space request elsewhere status).2 := by
  obtain ⟨act, allows, move⟩ := permits cluster sound holds elsewhere status
  exact Footing.Holds.own holds sound move allows

/-- A program that asks only what is permitted from the start is safe, learning nothing. -/
theorem safe_of_asks {after : Footing → α → Prop} {p : Program world α}
    (harmless : p.Asks (scope.Harmless footing)) (ends : ∀ a, after footing a) :
    scope.Safe after p footing := by
  induction p with
  | done a => exact ends a
  | ask question next ih =>
    cases question with
    | send request =>
      have permits : scope.Permits footing request := harmless.1
      refine ⟨permits, fun reply _ => ih reply (harmless.2 reply), ?_⟩
      intro cluster sound holds elsewhere status
      exact ⟨footing, .refl footing, permits.holds sound holds elsewhere status,
        ih _ (harmless.2 _)⟩
    | clock => exact fun now => ih now (harmless.2 now)
    | look query => exact fun answer => ih answer (harmless.2 answer)

/-- A call is safe if its request is permitted and whatever comes of it is well. -/
theorem safe_send {after : Footing → Except ApiError α → Prop} {read : Reply → Except ApiError α}
    {request : Request} (permits : scope.Permits footing request)
    (unsent : ∀ fault, after footing (.error (.unsent fault)))
    (lost : ∀ reply : Reply, reply.IsLost → after footing (read reply))
    (served : ∀ cluster : Cluster scope.versions, scope.Sound cluster →
      scope.Holds footing cluster → ∀ elsewhere status, ∃ later : Footing, later.Extends footing ∧
        scope.Holds later (cluster.serve scope.space request elsewhere status).2 ∧
        after later (read (cluster.serve scope.space request elsewhere status).1)) :
    scope.Safe after (ApiCall.send read request).run footing := by
  unfold ApiCall.send
  cases request.uri? with
  | error fault => exact unsent (.badAddress fault)
  | ok uri => exact ⟨permits, lost, served⟩

/-- A call asks only what is permitted if its request is permitted. -/
theorem asks_of_permits {read : Reply → Except ApiError α} {request : Request}
    (permits : scope.Permits footing request) :
    (ApiCall.send read request).run.Asks (scope.Harmless footing) :=
  ApiCall.asks_send permits

/-! ### What a pass reports -/

/-- The publication of an event is a request about events. -/
theorem permits_event (event : ClusterEvent) : scope.Permits footing event.request := by
  refine permits_elsewhere fun objects isAbout => ?_
  cases event.objects?_request.symm.trans isAbout
  exact (show Kind.event ≠ .policy ∧ Kind.event ≠ .firewall by decide)

variable {setting : Setting} {policy : Policy} {ledger : Ledger}

/-- Announcing something asks only what is permitted. -/
theorem asks_announce (content : EventNote) :
    ((setting.announce policy content).run ledger).Asks (scope.Harmless footing) := by
  refine (Setting.asks_announce content).imp fun question announces => ?_
  cases question with
  | send request =>
    obtain ⟨event, rfl⟩ := announces
    exact permits_event event
  | clock => trivial
  | look query => trivial

/-- A write of the status asks only what is permitted. -/
theorem asks_updateStatus (outcome : Outcome) :
    (policy.updateStatus scope.space outcome).run.Asks (scope.Harmless footing) :=
  Policy.asks_updateStatus trivial fun _ => permits_status _ _ _

/-- A write of the status asks only what is permitted if what comes after it does. -/
theorem asks_updateStatus_bind {outcome : Outcome} {f : Except ApiError Unit → Pass β}
    (later : ∀ result ledger, ((f result).run ledger).Asks (scope.Harmless footing)) :
    (((liftM (policy.updateStatus scope.space outcome).run : Pass _) >>= f).run ledger).Asks
      (scope.Harmless footing) := by
  rw [Program.run_stateT_lift_bind]
  exact (asks_updateStatus outcome).bind fun result => later result ledger

/-- A report of a failure asks only what is permitted. -/
theorem asks_reportFailure (outcome : Outcome) :
    ((setting.reportFailure scope.space policy outcome).run ledger).Asks
      (scope.Harmless footing) :=
  asks_updateStatus_bind fun _ _ => asks_announce _

/-! ### Reading objects -/

/-- A reading is safe if it is well that nothing is found, and if what is found, being what is
stored, allows a pass to rely on enough. -/
theorem safe_get? [resource : Resource α] {after : Footing → Except ApiError (Option α) → Prop}
    (name : String) (nothing : ∀ found, (∀ a, found ≠ .ok (some a)) → after footing found)
    (something : ∀ cluster : Cluster scope.versions, scope.Sound cluster →
      scope.Holds footing cluster → ∀ elsewhere status a,
        (cluster.serve scope.space
          ⟨.get, .object (ApiCall.objects α (some scope.space)) name, [], none⟩ elsewhere
            status).1.read resource.decode = .ok a →
        ∃ later : Footing, later.Extends footing ∧ scope.Holds later cluster ∧
          after later (.ok (some a))) :
    scope.Safe after (ApiCall.get? (some scope.space) name : ApiCall (Option α)).run footing := by
  have asRead : (ApiCall.get? (some scope.space) name : ApiCall (Option α)).run =
      (ApiCall.get (some scope.space) name : ApiCall α).run.bind
        fun found => .done (ApiCall.absenceIsNone found) := rfl
  have nothingRead (result : Except ApiError α) (isError : ∀ a, result ≠ .ok a) :
      after footing (ApiCall.absenceIsNone result) :=
    nothing _ fun a found => isError a (ApiCall.eq_of_absenceIsNone found)
  rw [asRead]
  refine Safe.bind ?_ fun _ _ ended => ended
  unfold ApiCall.get ApiCall.byName
  split
  · exact nothingRead _ nofun
  · refine safe_send (permits_read rfl) (fun fault => nothingRead _ nofun) ?_ ?_
    · intro reply isLost
      obtain ⟨error, isError, _⟩ := isLost α resource.decode
      refine nothingRead _ fun a found => ?_
      cases isError.symm.trans found
    · intro cluster sound holds elsewhere status
      rw [cluster.serve_read scope.space elsewhere status rfl]
      cases found : (cluster.serve scope.space
        ⟨.get, .object (ApiCall.objects α (some scope.space)) name, [], none⟩ elsewhere
          status).1.read resource.decode with
      | error error => exact ⟨footing, .refl footing, holds, nothingRead _ nofun⟩
      | ok a => exact something cluster sound holds elsewhere status a found

/-- What is read of a stored object is read from it. -/
theorem decode_of_read_get {decode : Decoder α} {store : Store scope.versions} {a : α}
    (reads : (store.serveObject .get none).1.read decode = .ok a) :
    ∃ object, store.stored = some object ∧ decode object = .ok a := by
  unfold Store.serveObject at reads
  cases stored : store.stored with
  | none =>
    rw [stored] at reads
    cases reads
  | some object =>
    refine ⟨object, rfl, ?_⟩
    rw [stored] at reads
    cases decoded : decode object with
    | error fault => cases (Store.read_reply_error decoded).symm.trans reads
    | ok b =>
      cases (Store.read_reply decoded).symm.trans reads
      rfl

/-! ### Writing the firewall configuration -/

/-- Whether a pass has seen a stored firewall configuration that another one is read from. -/
def Saw (footing : Footing) (name : String) (current : Firewall) : Prop :=
  ∃ object, (name, object) ∈ footing.seen ∧
    object.version? = current.metadata.resourceVersion.map .str ∧
    object.ownerUids = current.metadata.owners.map (·.uid)

/-- A reading of the firewall configuration is safe, and what is read has been seen. -/
theorem safe_readFirewall (name : String) :
    scope.Safe (fun later found => later.role = footing.role ∧
        ∀ current, found = .ok (some current) → Saw later name current)
      (ApiCall.get? (some scope.space) name : ApiCall (Option Firewall)).run footing := by
  refine safe_get? name (fun found nothing => ⟨rfl, fun a isFound => absurd isFound (nothing a)⟩) ?_
  intro cluster sound holds elsewhere status current reads
  obtain ⟨object, stored, readable⟩ := decode_of_read_get (cluster.serve_firewall_get .. ▸ reads)
  refine ⟨⟨footing.role, (name, object) :: footing.seen⟩,
    ⟨.inr rfl, fun _ => List.mem_cons_of_mem _⟩, ?_, rfl, ?_⟩
  · refine ⟨holds.keeps, holds.released, ?_⟩
    intro entry isSeen
    rcases isSeen with _ | ⟨_, earlier⟩
    · exact ⟨cluster.firewalls name, stored, .refl _⟩
    · exact holds.recalls entry earlier
  · intro read isRead
    cases isRead
    refine ⟨object, List.mem_cons_self, ?_⟩
    obtain ⟨place, _, written, rfl⟩ := (cluster.firewalls name).past object stored
    refine ⟨?_, Firewall.ownerUids_of_decode readable⟩
    rw [Json.version?_stamp, Firewall.version_of_decode readable]
    rfl

/-- What a policy may want on a footing: the firewall configuration of the peer, owned by the policy
of the identity only if that carries the mark. -/
structure Wants (scope : Scope) (footing : Footing) (name : String) (desired : Firewall) :
    Prop where
  isHome : scope.tenants.IsHome scope.space name
  named : desired.metadata.name = some name
  owned : ∀ owner ∈ desired.metadata.owners, owner.uid = scope.uid → footing.role = .keeping

/-- What may be wanted may be wanted in the same role. -/
theorem Wants.of_role {name : String} {desired : Firewall} {later : Footing}
    (wants : scope.Wants footing name desired) (sameRole : later.role = footing.role) :
    scope.Wants later name desired where
  isHome := wants.isHome
  named := wants.named
  owned owner member isIt := sameRole.trans (wants.owned owner member isIt)

/-- To create what a policy may want is permitted. -/
theorem asks_create {name : String} {desired : Firewall}
    (wants : scope.Wants footing name desired) (query : List (String × String)) :
    (ApiCall.create (some scope.space) query desired).run.Asks (scope.Harmless footing) := by
  have named : desired.encode.name? = some (.str name) := by
    rw [← Option.map_some, ← wants.named]
    exact Firewall.name_encode desired
  have permits : scope.Permits footing
      ⟨.post, .collection (Cluster.firewallsOf scope.space), query, some desired.encode⟩ := by
    refine permits_creation named ?_
    intro isOwner
    rw [Firewall.ownerUids_encode] at isOwner
    obtain ⟨owner, member, isIt⟩ := List.mem_map.1 isOwner
    exact ⟨wants.owned owner member isIt, wants.isHome⟩
  unfold ApiCall.create ApiCall.exchange
  exact asks_of_permits permits

/-- To lay what a policy may want over what has been seen is permitted. -/
theorem asks_replace {name : String} {desired current : Firewall}
    (wants : scope.Wants footing name desired) (saw : Saw footing name current)
    (query : List (String × String)) :
    (ApiCall.replace (some scope.space) name query (current.overlay desired)).run.Asks
      (scope.Harmless footing) := by
  obtain ⟨object, isSeen, version, owners⟩ := saw
  have sameVersion : (current.overlay desired).encode.version? = object.version? :=
    (Firewall.version?_encode _).trans version.symm
  have permits : scope.Permits footing
      ⟨.put, .object (Cluster.firewallsOf scope.space) name, query,
        some (current.overlay desired).encode⟩ := by
    refine permits_replacement ?_
    intro isOwner
    rw [Firewall.ownerUids_encode] at isOwner
    obtain ⟨owner, member, isIt⟩ := List.mem_map.1 isOwner
    rcases mem_foldl_setOwner member with isDesired | isCurrent
    · exact .inl ⟨wants.owned owner isDesired isIt, wants.isHome⟩
    · have wasOwner : scope.uid ∈ object.ownerUids := by
        rw [owners, ← isIt]
        exact List.mem_map_of_mem isCurrent
      exact .inr ⟨object, isSeen, sameVersion, wasOwner⟩
  unfold ApiCall.replace ApiCall.exchange
  exact ApiCall.asks_byName (asks_of_permits permits)

/-- A write that is permitted is safe, whatever is made of its end. -/
theorem safe_write {p : Program world α} (harmless : p.Asks (scope.Harmless footing))
    (ending : α → β) : scope.Safe (fun later _ => later.role = footing.role) (ending <$> p)
      footing := by
  rw [map_eq_pure_bind]
  exact safe_of_asks (harmless.bind fun _ => trivial) fun _ => rfl

/-- An attempt to write what a policy may want is safe. -/
theorem safe_attempt {name : String} {desired : Firewall}
    (wants : scope.Wants footing name desired) :
    scope.Safe (fun later _ => later.role = footing.role)
      (Firewall.attempt scope.space name desired).run footing := by
  unfold Firewall.attempt
  rw [ExceptT.run_mk, Program.bind_eq_bind]
  refine (safe_readFirewall name).bind ?_
  intro later found ends
  obtain ⟨sameRole, saw⟩ := ends
  have wantsLater := wants.of_role sameRole
  rw [← sameRole]
  match found with
  | .error error => exact rfl
  | .ok none => exact safe_write (asks_create wantsLater _) _
  | .ok (some current) =>
    simp only
    cases merges : current.merge desired with
    | none => exact rfl
    | some updated =>
      obtain rfl := Firewall.merge_eq_some merges
      exact safe_write (asks_replace wantsLater (saw current rfl) _) _

/-- Attempts to write what a policy may want are safe. -/
theorem safe_upsertWithin {name : String} {desired : Firewall}
    (wants : scope.Wants footing name desired) (attempts : Nat) :
    scope.Safe (fun later _ => later.role = footing.role)
      (Firewall.upsertWithin scope.space name desired attempts).run footing := by
  induction attempts generalizing footing with
  | zero => exact rfl
  | succ attempts ih =>
    rw [Firewall.upsertWithin, ExceptT.run_bind, Program.bind_eq_bind]
    refine (safe_attempt wants).bind ?_
    intro later result sameRole
    rw [← sameRole]
    cases result with
    | error error => exact rfl
    | ok ended =>
      cases ended with
      | none => exact ih (wants.of_role sameRole)
      | some operation => exact rfl

/-- To write what a policy may want is safe. -/
theorem safe_upsert {name : String} {desired : Firewall}
    (wants : scope.Wants footing name desired) :
    scope.Safe (fun later _ => later.role = footing.role)
      (Firewall.upsert scope.space desired).run footing := by
  have called : desired.metadata.displayName = name := by
    rw [Metadata.displayName, wants.named, Option.getD_some]
  rw [Firewall.upsert, called]
  exact safe_upsertWithin wants Firewall.maxAttempts

/-! ### Compiling -/

/-- Compiling is safe where the state of the cluster is only read. -/
theorem safe_compile (looksOnly : setting.LooksOnly) (clusterId : String)
    {after : Footing → Except CompileError FirewallSpec → Prop}
    (ends : ∀ result, after footing result) :
    scope.Safe after (setting.compile clusterId policy) footing := by
  have harmless (query : Query) : (setting.lookUp query).Asks (scope.Harmless footing) := by
    refine (looksOnly query).imp ?_
    intro question isRead
    cases question with
    | send request => exact permits_read isRead
    | clock => trivial
    | look query => trivial
  exact safe_of_asks (Program.asks_answeredBy harmless _) ends

/-- What is desired for a policy is what it may want. -/
theorem wants_of_desired {clusterId : String} {spec : FirewallSpec} {desired : Firewall}
    (isHome : scope.tenants.clusterId scope.space = .ok clusterId)
    (keeping : policy.metadata.uid = some scope.uid → footing.role = .keeping)
    (built : policy.desiredFirewall? clusterId spec = some desired) :
    scope.Wants footing (ClusterInfo.firewallName clusterId) desired := by
  obtain ⟨owner, _, isOwner, rfl⟩ := Policy.desiredFirewall?_eq_some built
  constructor
  case isHome => exact ⟨clusterId, isHome, rfl⟩
  case named => rfl
  case owned =>
    intro other member isIt
    cases List.mem_singleton.1 member
    exact keeping (isIt ▸ isOwner)

/-- Bringing the firewall configuration of the peer up to date is safe if the policy carries the
mark where it is the one of the identity. -/
theorem safe_sync (looksOnly : setting.LooksOnly) {clusterId : String}
    (isHome : scope.tenants.clusterId scope.space = .ok clusterId)
    (keeping : policy.metadata.uid = some scope.uid → footing.role = .keeping) :
    scope.Safe (fun _ _ => True) (setting.sync scope.space clusterId policy) footing := by
  unfold Setting.sync
  rw [Program.bind_eq_bind]
  have compiles : scope.Safe (fun later _ => later = footing) (setting.compile clusterId policy)
      footing := safe_compile looksOnly clusterId fun _ => rfl
  refine compiles.bind ?_
  intro later compiled same
  subst same
  cases compiled with
  | error error => trivial
  | ok spec =>
    simp only [Policy.desiredFirewall]
    cases built : policy.desiredFirewall? clusterId spec with
    | none => trivial
    | some desired =>
      have wants : scope.Wants later (ClusterInfo.firewallName clusterId) desired :=
        wants_of_desired isHome keeping built
      exact (safe_upsert wants).bind fun _ _ _ => trivial

/-! ### The parts of a pass -/

/-- Dealing with a policy that is there to stay is safe if it carries the mark where it is the one
of the identity. -/
theorem safe_apply (looksOnly : setting.LooksOnly)
    (sameTenants : setting.info.tenants = scope.tenants)
    (keeping : policy.metadata.uid = some scope.uid → footing.role = .keeping) :
    scope.Safe (fun _ _ => True) ((setting.apply scope.space policy).run ledger) footing := by
  unfold Setting.apply
  rw [sameTenants]
  cases isHome : scope.tenants.clusterId scope.space with
  | error error =>
    exact safe_of_asks ((asks_reportFailure _).bind fun _ => trivial) fun _ => trivial
  | ok clusterId =>
    simp only
    rw [Program.run_stateT_lift_bind]
    refine (safe_sync looksOnly isHome keeping).bind ?_
    intro later result _
    cases result with
    | error error =>
      exact safe_of_asks ((asks_reportFailure _).bind fun _ => trivial) fun _ => trivial
    | ok operation =>
      refine safe_of_asks ?_ fun _ => trivial
      change Program.Asks _ (StateT.run (if _ then _ else _) _)
      split
      · refine (asks_announce _).bind fun _ => asks_updateStatus_bind ?_
        intro result ledger
        cases result <;> trivial
      · refine asks_updateStatus_bind ?_
        intro result ledger
        cases result <;> trivial

/-- Where the firewall configuration of the peer is gone, the policy owns nothing. -/
theorem not_owned_of_gone {cluster : Cluster scope.versions} (sound : scope.Sound cluster)
    {clusterId : String} (isHome : scope.tenants.clusterId scope.space = .ok clusterId)
    (gone : (cluster.firewalls (ClusterInfo.firewallName clusterId)).stored = none)
    (firewall : String) : ¬ cluster.Owned scope.uid firewall := by
  intro owned
  obtain ⟨⟨other, isOther, rfl⟩, _⟩ := sound.owned firewall owned
  cases isHome.symm.trans isOther
  obtain ⟨object, stored, _⟩ := owned
  cases gone.symm.trans stored

/-- Deleting the firewall configuration of the peer is safe, and where that succeeds, the policy
owns nothing. -/
theorem safe_remove {clusterId : String}
    (isHome : scope.tenants.clusterId scope.space = .ok clusterId)
    (notKeeping : footing.role ≠ .keeping) :
    scope.Safe (fun later result => result = .ok () → later.role = .released)
      (Firewall.remove scope.space (ClusterInfo.firewallName clusterId)).run footing := by
  unfold Firewall.remove
  rw [ExceptT.run_mk, map_eq_pure_bind, Program.bind_eq_bind]
  refine Safe.bind ?_ fun _ _ ended => ended
  unfold ApiCall.delete ApiCall.byName
  split
  · exact nofun
  · refine safe_send (permits_deletion _ _ _) (fun fault => nofun) ?_ ?_
    · intro reply isLost
      obtain ⟨error, isError, found⟩ := isLost Json (Decoder.keep 0)
      have failed : reply.readSound (ApiCall.decodeDeletion Firewall.decode) = .error error := by
        simp only [Reply.readSound, isError]
      intro succeeded
      change Firewall.deletionEnd (reply.readSound (ApiCall.decodeDeletion Firewall.decode)) = _
        at succeeded
      rw [failed, Firewall.deletionEnd, found] at succeeded
      cases succeeded
    · intro cluster sound holds elsewhere status
      have permits : scope.Permits footing _ :=
        permits_deletion (ClusterInfo.firewallName clusterId) [] (some (.obj []))
      obtain ⟨act, _, move⟩ := permits cluster sound holds elsewhere status
      have kept := permits.holds sound holds elsewhere status
      refine ⟨⟨.released, footing.seen⟩, ⟨?_, fun _ => id⟩, ⟨nofun, fun _ => ?_, kept.recalls⟩,
        fun _ => rfl⟩
      · cases role : footing.role with
        | watching => exact .inl rfl
        | keeping => exact absurd role notKeeping
        | released => exact .inr rfl
      · intro _ firewall
        refine not_owned_of_gone (move.sound sound) isHome ?_ firewall
        rw [Cluster.serve_firewall]
        unfold Cluster.setFirewall Store.serveObject
        cases stored : (cluster.firewalls (ClusterInfo.firewallName clusterId)).stored with
        | none => simp [stored]
        | some object => simp [Store.remove]

/-- Cleaning up is safe, and where that succeeds, the policy owns nothing. -/
theorem safe_cleanup (sameTenants : setting.info.tenants = scope.tenants)
    (notKeeping : footing.role ≠ .keeping)
    (noPeer : ∀ error, scope.tenants.clusterId scope.space = .error error →
      footing.role = .released) :
    scope.Safe (fun later result => ∀ action, result.1 = .ok action → later.role = .released)
      ((setting.cleanup scope.space).run ledger) footing := by
  unfold Setting.cleanup
  rw [sameTenants]
  cases isHome : scope.tenants.clusterId scope.space with
  | error error => exact fun _ _ => noPeer error isHome
  | ok clusterId =>
    simp only
    rw [Program.run_stateT_lift_bind]
    refine (safe_remove isHome notKeeping).bind ?_
    intro later result ends
    cases result with
    | error error => exact nofun
    | ok => exact fun _ _ => ends rfl

/-- What a pass that has fetched the policy relies on: the policy carries the mark if it is to stay,
and has nothing to be cleaned up if its namespace names no peer. -/
structure Fetched (scope : Scope) (footing : Footing) (policy : Policy) : Prop where
  named : ∀ name, policy.metadata.name = some name → name = scope.name
  keeping : (Finalizer.place? policy.metadata).isSome → policy.metadata.deletionTimestamp = none →
    policy.metadata.uid = some scope.uid → footing.role = .keeping
  notKeeping : policy.metadata.deletionTimestamp.isSome → footing.role ≠ .keeping
  noPeer : policy.metadata.deletionTimestamp.isSome →
    ∀ error, scope.tenants.clusterId scope.space = .error error → footing.role = .released

/-- A patch of the finalizers is safe if it is permitted. -/
theorem safe_patchFinalizers {name : String} {patch : Json}
    (permits : scope.Permits footing
      ⟨.patch .json, .object (Cluster.policiesOf scope.space) name, [], some patch⟩) :
    scope.Safe (fun _ _ => True) (Setting.patchFinalizers scope.space name patch) footing :=
  safe_of_asks (ApiCall.asks_byName (asks_of_permits permits)) fun _ => trivial

/-- Dealing with a policy that has been fetched is safe. -/
theorem safe_finalize (looksOnly : setting.LooksOnly)
    (sameTenants : setting.info.tenants = scope.tenants) (fetched : scope.Fetched footing policy) :
    scope.Safe (fun _ _ => True) ((setting.finalize scope.space policy).run ledger) footing := by
  cases policy.stage with
  | arriving unmarked kept named =>
    rw [Setting.finalize_arriving unmarked kept named, Program.run_stateT_lift_bind]
    refine (safe_patchFinalizers (permits_added _ _)).bind ?_
    intro _ result _
    cases result <;> trivial
  | staying marked kept =>
    rw [Setting.finalize_staying marked kept, Program.run_stateT_bind]
    have keeping := fetched.keeping (marked ▸ rfl) kept
    exact (safe_apply looksOnly sameTenants keeping).bind fun _ _ _ => trivial
  | leaving marked deleted named =>
    obtain rfl := fetched.named _ named
    rw [Setting.finalize_leaving marked deleted named, Program.run_stateT_bind]
    have isDeleted := Option.isSome_iff_ne_none.2 deleted
    have notKeeping := fetched.notKeeping isDeleted
    have noPeer := fetched.noPeer isDeleted
    refine (safe_cleanup sameTenants notKeeping noPeer).bind ?_
    intro later ended ends
    obtain ⟨result, ledger⟩ := ended
    cases result with
    | error error => trivial
    | ok action =>
      have isReleased : later.role = .released := ends action rfl
      simp only
      rw [Program.run_stateT_lift_bind]
      refine (safe_patchFinalizers (permits_removed isReleased _)).bind ?_
      intro _ result _
      cases result <;> trivial
  | released unmarked deleted =>
    rw [Setting.finalize_released unmarked deleted]
    trivial
  | unnamed unnamed unsettled =>
    rw [Setting.finalize_unnamed unnamed unsettled]
    trivial

/-- What is read of the policy that is stored allows a pass to rely on enough. -/
theorem fetched_of_stored {cluster : Cluster scope.versions} (sound : scope.Sound cluster)
    {object : Json} (stored : (cluster.policies scope.name).stored = some object)
    (readable : Policy.decode object = .ok policy) :
    ∃ role : Role, scope.Holds ⟨role, []⟩ cluster ∧ scope.Fetched ⟨role, []⟩ policy := by
  obtain ⟨place, _, written, rfl⟩ := (cluster.policies scope.name).past object stored
  have metadata := Policy.metadata_of_decode readable
  have isNamed (name : String) (named : policy.metadata.name = some name) : name = scope.name := by
    have there := Metadata.name_of_decode metadata named
    cases there.symm.trans (sound.named scope.name _ stored)
    rfl
  cases deletion : policy.metadata.deletionTimestamp with
  | none =>
    by_cases isIt : policy.metadata.uid = some scope.uid ∧
        (Finalizer.place? policy.metadata).isSome
    · obtain ⟨isUid, isMarked⟩ := isIt
      have keeps : cluster.Keeps scope.uid scope.name := by
        refine ⟨_, stored, Metadata.uid_of_decode metadata isUid, ?_⟩
        unfold Json.IsMarked Json.finalizers
        rw [Metadata.finalizers_of_decode metadata]
        exact List.mem_map_of_mem (List.isSome_idxOf?.1 isMarked)
      exact ⟨.keeping, ⟨fun _ => keeps, nofun, nofun⟩, isNamed, fun _ _ _ => rfl,
        by simp [deletion], by simp [deletion]⟩
    · exact ⟨.watching, ⟨nofun, nofun, nofun⟩, isNamed,
        fun isMarked _ isUid => absurd ⟨isUid, isMarked⟩ isIt, by simp [deletion],
        by simp [deletion]⟩
  | some time =>
    have notKept : ¬ policy.metadata.deletionTimestamp = none := by simp [deletion]
    cases isHome : scope.tenants.clusterId scope.space with
    | error error =>
      refine ⟨.released, ⟨nofun, fun _ _ firewall owned => ?_, nofun⟩, isNamed,
        fun _ stays => absurd stays notKept, nofun, fun _ _ _ => rfl⟩
      obtain ⟨⟨clusterId, isOther, _⟩, _⟩ := sound.owned firewall owned
      cases isHome.symm.trans isOther
    | ok clusterId =>
      refine ⟨.watching, ⟨nofun, nofun, nofun⟩, isNamed, fun _ stays => absurd stays notKept, nofun,
        fun _ error isError => ?_⟩
      cases isHome.symm.trans isError

/-- A pass over the policy of the name is safe. -/
theorem safe_pass (looksOnly : setting.LooksOnly)
    (sameTenants : setting.info.tenants = scope.tenants)
    (inSpace : policy.metadata.namespace = some scope.space)
    (named : policy.metadata.displayName = scope.name) :
    scope.Safe (fun _ _ => True) ((setting.pass policy).run ledger) .none := by
  unfold Setting.pass
  rw [Program.run_stateT_lift_bind]
  refine Safe.bind (fun now => ?_) fun _ _ ended => ended
  change scope.Safe _ (StateT.run (if _ then _ else _) _) _
  split
  · rw [inSpace, named]
    simp only
    rw [Program.run_stateT_lift_bind]
    refine Safe.bind (safe_get? scope.name ?_ ?_) fun _ _ ended => ended
    · intro found nothing
      match found, nothing with
      | .error error, _ => trivial
      | .ok none, _ => trivial
      | .ok (some fetched), nothing => exact absurd rfl (nothing fetched)
    · intro cluster sound holds elsewhere status fetched reads
      obtain ⟨object, stored, readable⟩ := decode_of_read_get (cluster.serve_policy_get .. ▸ reads)
      obtain ⟨role, holdsLater, isFetched⟩ := fetched_of_stored sound stored readable
      refine ⟨⟨role, []⟩, ⟨.inl rfl, nofun⟩, holdsLater, ?_⟩
      simp only
      rw [Program.run_stateT_bind]
      exact (safe_finalize looksOnly sameTenants isFetched).bind fun _ _ _ => trivial
  · trivial

/-- A pass over the policy of the name that is counted is safe. -/
theorem safe_reconcile (looksOnly : setting.LooksOnly)
    (sameTenants : setting.info.tenants = scope.tenants)
    (inSpace : policy.metadata.namespace = some scope.space)
    (named : policy.metadata.displayName = scope.name) :
    scope.Safe (fun _ _ => True) ((setting.reconcile policy).run ledger) .none := by
  unfold Setting.reconcile
  rw [Program.run_stateT_bind]
  refine (safe_pass looksOnly sameTenants inSpace named).bind ?_
  intro later ended _
  obtain ⟨result, ledger⟩ := ended
  cases result with
  | error error => trivial
  | ok action =>
    simp only
    cases policy.metadata.objectName <;> trivial

/-- A pass over the policy of the name, after which it is settled when the policy is looked at
again, is safe. -/
theorem safe_turn (looksOnly : setting.LooksOnly)
    (sameTenants : setting.info.tenants = scope.tenants)
    (inSpace : policy.metadata.namespace = some scope.space)
    (named : policy.metadata.displayName = scope.name) :
    scope.Safe (fun _ _ => True) ((setting.turn policy).run ledger) .none := by
  unfold Setting.turn
  rw [Program.run_stateT_bind]
  refine (safe_reconcile looksOnly sameTenants inSpace named).bind ?_
  intro later ended _
  obtain ⟨result, ledger⟩ := ended
  match result with
  | .error complaint => trivial
  | .ok (.ok action) => trivial
  | .ok (.error error) =>
    have gets : (get : Pass Ledger).run ledger = .done (ledger, ledger) := rfl
    simp only
    rw [Program.run_stateT_bind, gets, Program.bind]
    cases ledger.retry policy <;> trivial

end Scope

end PeerFirewall
