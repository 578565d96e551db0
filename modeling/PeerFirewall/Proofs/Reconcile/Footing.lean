import PeerFirewall.Proofs.Fabric.Reads
import PeerFirewall.Proofs.Reconcile.Lifetime
import PeerFirewall.Reconcile.Pass

/-!
# What a pass relies on

A pass learns from replies what it then relies on: that the policy carries the mark of the
controller, that it owns nothing any more, or which firewall configurations were stored. This is its
`Footing`, which stays true whatever others do. A request is permitted on a footing if all that it
can do there, whenever it takes effect, is one of the moves that keep a cluster sound
(`Scope.Permits`), and a program is safe if all its requests are (`Scope.Safe`), whatever is
answered and whichever of them are lost.
-/
namespace PeerFirewall

/-- What a pass may do with the mark. -/
inductive Role where
  /-- Neither write an owner nor take the mark away. -/
  | watching
  /-- Write the policy as an owner, because it carries the mark. -/
  | keeping
  /-- Take the mark away, because the policy owns nothing. -/
  | released
deriving DecidableEq

/-- What a pass relies on. -/
structure Footing where
  role : Role
  /-- The firewall configurations that were stored, by name. -/
  seen : List (String × Json)

namespace Footing

/-- Nothing is relied on. -/
def none : Footing := ⟨.watching, []⟩

/-- Whether all that a pass over the policy of a name relies on is true. -/
structure Holds {versions : Versions} (footing : Footing) (uid name : String)
    (cluster : Cluster versions) : Prop where
  keeps : footing.role = .keeping → cluster.Keeps uid name
  released : footing.role = .released → cluster.Released uid name
  recalls : ∀ entry ∈ footing.seen, cluster.Recalls entry.1 entry.2

/-- Whether a pass over the policy of a name may do something. -/
def Allows (footing : Footing) (name : String) : Act → Prop
  | .plain => True
  | .claim other => other = name ∧ footing.role = .keeping
  | .release other => other = name ∧ footing.role = .released

/-- Whether more is relied on later, in a role that has not changed once it is known. -/
structure Extends (later earlier : Footing) : Prop where
  role : earlier.role = .watching ∨ later.role = earlier.role
  seen : ∀ entry ∈ earlier.seen, entry ∈ later.seen

/-- What is relied on is relied on. -/
theorem Extends.refl (footing : Footing) : footing.Extends footing := ⟨.inr rfl, fun _ => id⟩

variable {versions : Versions} {tenants : Tenants} {space uid name : String}
  {cluster later : Cluster versions} {act : Act} {footing more : Footing}

/-- Where more is true, less is. -/
theorem Holds.of_extends (holds : more.Holds uid name cluster) (extend : more.Extends footing) :
    footing.Holds uid name cluster where
  keeps isKeeping := by
    rcases extend.role with watching | same
    · cases watching.symm.trans isKeeping
    · exact holds.keeps (same.trans isKeeping)
  released isReleased := by
    rcases extend.role with watching | same
    · cases watching.symm.trans isReleased
    · exact holds.released (same.trans isReleased)
  recalls entry member := holds.recalls entry (extend.seen entry member)

/-- Where more is relied on, more may be done. -/
theorem Allows.of_extends (allows : footing.Allows name act) (extend : more.Extends footing) :
    more.Allows name act := by
  cases act with
  | plain => trivial
  | claim other =>
    obtain ⟨same, isKeeping⟩ := allows
    rcases extend.role with watching | sameRole
    · cases watching.symm.trans isKeeping
    · exact ⟨same, sameRole.trans isKeeping⟩
  | release other =>
    obtain ⟨same, isReleased⟩ := allows
    rcases extend.role with watching | sameRole
    · cases watching.symm.trans isReleased
    · exact ⟨same, sameRole.trans isReleased⟩

/-- What is relied on stays true whatever happens that its role excludes nothing of. -/
theorem Holds.move (holds : footing.Holds uid name cluster)
    (sound : cluster.Sound tenants space uid) (move : cluster.Move tenants space uid act later)
    (notReleased : footing.role = .keeping → act ≠ .release name)
    (notClaimed : footing.role = .released → act ≠ .claim name) :
    footing.Holds uid name later where
  keeps isKeeping := move.keeps (holds.keeps isKeeping) (notReleased isKeeping)
  released isReleased := move.released sound (holds.released isReleased) (notClaimed isReleased)
  recalls entry member := move.recalls (holds.recalls entry member)

/-- What a pass relies on stays true whatever it does itself. -/
theorem Holds.own (holds : footing.Holds uid name cluster)
    (sound : cluster.Sound tenants space uid) (move : cluster.Move tenants space uid act later)
    (allows : footing.Allows name act) : footing.Holds uid name later := by
  refine holds.move sound move ?_ ?_
  · intro isKeeping releases
    subst releases
    cases isKeeping.symm.trans allows.2
  · intro isReleased claims
    subst claims
    cases isReleased.symm.trans allows.2

/-- What a pass relies on stays true whatever a pass over another policy does. -/
theorem Holds.other (holds : footing.Holds uid name cluster)
    (sound : cluster.Sound tenants space uid) (move : cluster.Move tenants space uid act later)
    {other : String} (isOther : other ≠ name) (allows : more.Allows other act) :
    footing.Holds uid name later := by
  refine holds.move sound move ?_ ?_
  · intro _ releases
    subst releases
    exact isOther allows.1.symm
  · intro _ claims
    subst claims
    exact isOther allows.1.symm

end Footing

/-- A reply from which nothing is learnt: whoever expects a value finds none, and it does not say
that the object does not exist. -/
def Reply.IsLost (reply : Reply) : Prop :=
  ∀ (α : Type) (decode : Decoder α),
    ∃ error, reply.read decode = .error error ∧ error.isNotFound = false

/-- Whether looking at the state of the cluster changes nothing. -/
def Setting.LooksOnly (setting : Setting) : Prop :=
  ∀ query, (setting.lookUp query).Asks WorldQuestion.IsRead

/-- A pass over the policy of a name in a namespace, as far as it matters to the policy of an
identity. -/
structure Scope where
  versions : Versions
  tenants : Tenants
  space : String
  uid : String
  name : String

namespace Scope

/-- Whether all is well in a cluster. -/
def Sound (scope : Scope) (cluster : Cluster scope.versions) : Prop :=
  cluster.Sound scope.tenants scope.space scope.uid

/-- Whether what a pass relies on is true. -/
def Holds (scope : Scope) (footing : Footing) (cluster : Cluster scope.versions) : Prop :=
  footing.Holds scope.uid scope.name cluster

/-- Whether a request does nothing but what a pass may do, whenever it takes effect. -/
def Permits (scope : Scope) (footing : Footing) (request : Request) : Prop :=
  ∀ cluster : Cluster scope.versions, scope.Sound cluster → scope.Holds footing cluster →
    ∀ elsewhere status, ∃ act, footing.Allows scope.name act ∧
      cluster.Move scope.tenants scope.space scope.uid act
        (cluster.serve scope.space request elsewhere status).2

/-- Whether a program makes permitted requests only and ends as it should, whatever it is answered
and whichever replies are lost. -/
def Safe (scope : Scope) {α : Type} (after : Footing → α → Prop) :
    Program world α → Footing → Prop
  | .done a, footing => after footing a
  | .ask (WorldQuestion.send request) next, footing =>
    scope.Permits footing request ∧
    (∀ reply : Reply, reply.IsLost → scope.Safe after (next reply) footing) ∧
    ∀ cluster : Cluster scope.versions, scope.Sound cluster → scope.Holds footing cluster →
      ∀ elsewhere status, ∃ later : Footing, later.Extends footing ∧
        scope.Holds later (cluster.serve scope.space request elsewhere status).2 ∧
        scope.Safe after (next (cluster.serve scope.space request elsewhere status).1) later
  | .ask WorldQuestion.clock next, footing =>
    ∀ now : Time.Instant, scope.Safe after (next now) footing
  | .ask (WorldQuestion.look query) next, footing =>
    ∀ answer : query.Answer, scope.Safe after (next answer) footing

variable {scope : Scope} {footing more : Footing} {request : Request} {α β : Type}

/-! ### Requests -/

/-- What is permitted stays permitted when more is relied on. -/
theorem Permits.of_extends (permits : scope.Permits footing request)
    (extend : more.Extends footing) : scope.Permits more request := by
  intro cluster sound holds elsewhere status
  obtain ⟨act, allows, move⟩ :=
    permits cluster sound (Footing.Holds.of_extends holds extend) elsewhere status
  exact ⟨act, allows.of_extends extend, move⟩

/-- A request that changes nothing is permitted. -/
theorem permits_of_unchanged
    (unchanged : ∀ (cluster : Cluster scope.versions) elsewhere status,
      (cluster.serve scope.space request elsewhere status).2 = cluster) :
    scope.Permits footing request := by
  intro cluster _ _ elsewhere status
  rw [unchanged]
  exact ⟨.plain, trivial, .stay⟩

/-- A request about other kinds of objects is permitted. -/
theorem permits_elsewhere (isOther : ∀ objects, request.endpoint.objects? = some objects →
    objects.kind ≠ .policy ∧ objects.kind ≠ .firewall) : scope.Permits footing request := by
  refine permits_of_unchanged fun cluster elsewhere status => ?_
  have notFirewalls {objects : Collection} (other : objects.kind ≠ .firewall) :
      objects ≠ Cluster.firewallsOf scope.space := fun same => other (same ▸ rfl)
  have notPolicies {objects : Collection} (other : objects.kind ≠ .policy) :
      objects ≠ Cluster.policiesOf scope.space := fun same => other (same ▸ rfl)
  obtain ⟨method, endpoint, query, body⟩ := request
  cases endpoint with
  | groupResources apiVersion => rfl
  | collection objects =>
    have ⟨_, other⟩ := isOther objects rfl
    rw [Cluster.serve]
    simp only [notFirewalls other, false_and, if_false]
  | object objects name =>
    have ⟨other, otherToo⟩ := isOther objects rfl
    rw [Cluster.serve]
    simp only [notFirewalls otherToo, notPolicies other, if_false]
  | status objects name =>
    have ⟨other, _⟩ := isOther objects rfl
    rw [Cluster.serve]
    simp only [notPolicies other, if_false]

/-- A request that reads is permitted. -/
theorem permits_read (isRead : request.method = .get) : scope.Permits footing request :=
  permits_of_unchanged fun cluster elsewhere status =>
    cluster.serve_read scope.space elsewhere status isRead

/-- A write of the status of a policy is permitted. -/
theorem permits_status (name : String) (query : List (String × String)) (body : Option Json) :
    scope.Permits footing
      ⟨.patch .merge, .status (Cluster.policiesOf scope.space) name, query, body⟩ := by
  intro cluster _ _ elsewhere status
  rw [Cluster.serve_status]
  unfold Cluster.serveStatus
  cases stored : (cluster.policies name).stored with
  | none => exact ⟨.plain, trivial, .stay⟩
  | some object =>
    have kept : (object.withMember "status" status).metadata = object.metadata := by
      rw [Json.metadata, Json.get?_withMember, if_neg (by decide)]
      rfl
    refine ⟨.plain, trivial, .settle stored ⟨?_, ?_⟩ ?_⟩
    · unfold Json.name?
      rw [kept]
    · unfold Json.uid?
      rw [kept]
    · unfold Json.IsMarked Json.finalizers
      rw [kept]
      exact id

/-- The patch that adds the mark is permitted. -/
theorem permits_added (name : String) (present : List String) :
    scope.Permits footing ⟨.patch .json, .object (Cluster.policiesOf scope.space) name, [],
      some (Finalizer.added present)⟩ := by
  intro cluster _ _ elsewhere status
  rw [Cluster.serve_policy]
  unfold Cluster.servePolicy
  cases stored : (cluster.policies name).stored with
  | none => exact ⟨.plain, trivial, .stay⟩
  | some object =>
    simp only
    cases patches : object.patched? (Finalizer.added present) with
    | none => exact ⟨.plain, trivial, .stay⟩
    | some changed =>
      exact ⟨.plain, trivial, .settle stored (Finalizer.added_identity patches)
        (Finalizer.added_marked patches)⟩

/-- The patch that removes the mark is permitted where the policy owns nothing. -/
theorem permits_removed (isReleased : footing.role = .released) (place : Nat) :
    scope.Permits footing ⟨.patch .json, .object (Cluster.policiesOf scope.space) scope.name, [],
      some (Finalizer.removed place)⟩ := by
  intro cluster _ holds elsewhere status
  rw [Cluster.serve_policy]
  unfold Cluster.servePolicy
  cases stored : (cluster.policies scope.name).stored with
  | none => exact ⟨.plain, trivial, .stay⟩
  | some object =>
    simp only
    cases patches : object.patched? (Finalizer.removed place) with
    | none => exact ⟨.plain, trivial, .stay⟩
    | some changed =>
      have same := Finalizer.removed_identity patches
      exact ⟨.release scope.name, ⟨rfl, isReleased⟩,
        .release stored (fun later => same.of_settle) (holds.released isReleased)⟩

/-- The deletion of a firewall configuration is permitted. -/
theorem permits_deletion (name : String) (query : List (String × String)) (body : Option Json) :
    scope.Permits footing
      ⟨.delete, .object (Cluster.firewallsOf scope.space) name, query, body⟩ := by
  intro cluster _ _ elsewhere status
  rw [Cluster.serve_firewall]
  refine ⟨.plain, trivial, ?_⟩
  unfold Store.serveObject
  cases stored : (cluster.firewalls name).stored with
  | none => exact .firewall (.refl _) fun object isStored isOwner => ⟨object, isStored, isOwner⟩
  | some object => exact .firewall (.remove _) nofun

/-- The creation of the firewall configuration of the peer is permitted to a policy that carries
the mark, and to others with other owners. -/
theorem permits_creation {name : String} {query : List (String × String)} {body : Json}
    (named : body.name? = some (.str name))
    (owned : scope.uid ∈ body.ownerUids →
      footing.role = .keeping ∧ scope.tenants.IsHome scope.space name) :
    scope.Permits footing
      ⟨.post, .collection (Cluster.firewallsOf scope.space), query, some body⟩ := by
  intro cluster _ holds elsewhere status
  have isNamed : body.metadata.get? "name" = some (.str name) := named
  simp only [Cluster.serve_creation, Cluster.serveCreation, Option.bind_some, named,
    Store.serveObjects, isNamed, if_true]
  cases stored : (cluster.firewalls name).stored with
  | some object =>
    exact ⟨.plain, trivial,
      .firewall (.refl _) fun object isStored isOwner => ⟨object, isStored, isOwner⟩⟩
  | none =>
    by_cases isOwner : scope.uid ∈ body.ownerUids
    · obtain ⟨isKeeping, isHome⟩ := owned isOwner
      exact ⟨.claim scope.name, ⟨rfl, isKeeping⟩,
        .claim (.put _ body) isHome (holds.keeps isKeeping)⟩
    · refine ⟨.plain, trivial, .firewall (.put _ body) ?_⟩
      intro object isStored isLater
      cases isStored
      exact absurd ((Json.ownerUids_stamp ..) ▸ isLater) isOwner

/-- The replacement of the firewall configuration of the peer is permitted to a policy that carries
the mark, and to others with the owners of the one that it replaces. -/
theorem permits_replacement {name : String} {query : List (String × String)} {body : Json}
    (owned : scope.uid ∈ body.ownerUids →
      footing.role = .keeping ∧ scope.tenants.IsHome scope.space name ∨
      ∃ object, (name, object) ∈ footing.seen ∧ body.version? = object.version? ∧
        scope.uid ∈ object.ownerUids) :
    scope.Permits footing
      ⟨.put, .object (Cluster.firewallsOf scope.space) name, query, some body⟩ := by
  intro cluster _ holds elsewhere status
  have refused : cluster.Move scope.tenants scope.space scope.uid .plain
      (cluster.setFirewall name (cluster.firewalls name)) :=
    .firewall (.refl _) fun object isStored isOwner => ⟨object, isStored, isOwner⟩
  rw [Cluster.serve_firewall]
  unfold Store.serveObject
  cases stored : (cluster.firewalls name).stored with
  | none => exact ⟨.plain, trivial, refused⟩
  | some object =>
    simp only
    split
    · rename_i sameVersion
      have put (had : scope.uid ∈ body.ownerUids → cluster.Owned scope.uid name) :
          cluster.Move scope.tenants scope.space scope.uid .plain
            (cluster.setFirewall name ((cluster.firewalls name).put body)) := by
        refine .firewall (.put _ body) ?_
        intro object isStored isLater
        cases isStored
        exact had ((Json.ownerUids_stamp ..) ▸ isLater)
      by_cases isOwner : scope.uid ∈ body.ownerUids
      · rcases owned isOwner with ⟨isKeeping, isHome⟩ | ⟨seen, member, version, wasOwner⟩
        · exact ⟨.claim scope.name, ⟨rfl, isKeeping⟩,
            .claim (.put _ body) isHome (holds.keeps isKeeping)⟩
        · obtain ⟨earlier, wasStored, since⟩ := holds.recalls _ member
          have same : object = seen :=
            since.unchanged wasStored stored (sameVersion.symm.trans version)
          exact ⟨.plain, trivial, put fun _ => ⟨object, stored, same ▸ wasOwner⟩⟩
      · exact ⟨.plain, trivial, put fun isLater => absurd isLater isOwner⟩
    · exact ⟨.plain, trivial, refused⟩

end Scope

end PeerFirewall
