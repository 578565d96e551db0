import PeerFirewall.Fabric.ClusterInfo
import PeerFirewall.Proofs.Api.Cluster
import PeerFirewall.Proofs.Reconcile.Finalizer

/-!
# What may happen to policies and their firewall configurations

That no firewall configuration outlives the policy that owns it is a matter of the order of things:
an owner is written only while the policy carries the mark of the controller, and the mark is taken
away only when nothing is owned any more. `Cluster.Move` lists all that may happen. It keeps a
cluster sound (`Cluster.Move.sound`), and what a pass relies on stays true whatever others do
(`Cluster.Move.keeps`, `Cluster.Move.released`, `Cluster.Move.recalls`).
-/
namespace PeerFirewall

namespace Cluster

variable {versions : Versions}

/-- Whether the policy of a name has an identity. -/
def Has (uid : String) (cluster : Cluster versions) (name : String) : Prop :=
  ∃ object, (cluster.policies name).stored = some object ∧ object.uid? = some (.str uid)

/-- Whether the policy of a name has an identity and carries the mark of the controller. -/
def Keeps (uid : String) (cluster : Cluster versions) (name : String) : Prop :=
  ∃ object, (cluster.policies name).stored = some object ∧ object.uid? = some (.str uid) ∧
    object.IsMarked

/-- Whether the firewall configuration of a name has an owner of an identity. -/
def Owned (uid : String) (cluster : Cluster versions) (name : String) : Prop :=
  ∃ object, (cluster.firewalls name).stored = some object ∧ uid ∈ object.ownerUids

/-- Whether the policy of a name owns nothing, if it has an identity. -/
def Released (uid : String) (cluster : Cluster versions) (name : String) : Prop :=
  cluster.Has uid name → ∀ firewall, ¬ cluster.Owned uid firewall

/-- Whether an object was stored as the firewall configuration of a name at some time. -/
def Recalls (cluster : Cluster versions) (name : String) (object : Json) : Prop :=
  ∃ earlier : Store versions, earlier.stored = some object ∧
    earlier.Since (cluster.firewalls name)

/-- A policy that carries the mark has its identity. -/
theorem Keeps.has {uid name : String} {cluster : Cluster versions}
    (keeps : cluster.Keeps uid name) : cluster.Has uid name := by
  obtain ⟨object, stored, isIt, _⟩ := keeps
  exact ⟨object, stored, isIt⟩

end Cluster

/-- What is stored is followed by the same object where it is kept. -/
theorem Json.SameIdentity.of_settle {versions : Versions} {store : Store versions}
    {object changed later : Json} (same : object.SameIdentity changed)
    (stored : (store.settle changed).stored = some later) : object.SameIdentity later := by
  rw [Store.stored_settle stored]
  exact ⟨(Json.name?_stamp ..).trans same.name, (Json.uid?_stamp ..).trans same.uid⟩

/-- Whether a firewall configuration of that name is the one of the peer of a namespace. -/
def Tenants.IsHome (tenants : Tenants) (space name : String) : Prop :=
  ∃ clusterId, tenants.clusterId space = .ok clusterId ∧ name = ClusterInfo.firewallName clusterId

/-- Whether all is well with the policy of an identity: names and identities are unique, and where a
firewall configuration has it as an owner, the policy is there and carries the mark. -/
structure Cluster.Sound {versions : Versions} (tenants : Tenants) (space uid : String)
    (cluster : Cluster versions) : Prop where
  named : ∀ name object, (cluster.policies name).stored = some object →
    object.name? = some (.str name)
  unique : ∀ name other, cluster.Has uid name → cluster.Has uid other → name = other
  issued : ∀ name, cluster.Has uid name → uid ∈ cluster.issued
  owned : ∀ firewall, cluster.Owned uid firewall →
    tenants.IsHome space firewall ∧ ∃ name, cluster.Keeps uid name

/-- What only the pass over the policy of a name may do. -/
inductive Act where
  /-- Nothing; others may do it as well. -/
  | plain
  /-- Write a firewall configuration that the policy owns. -/
  | claim (name : String)
  /-- Take the mark away. -/
  | release (name : String)
deriving DecidableEq

namespace Cluster

variable {versions : Versions} {tenants : Tenants} {space uid : String}
  {cluster later : Cluster versions} {act : Act}

/-- What may happen to policies and firewall configurations, as far as it matters to the policy of
an identity. -/
inductive Move (tenants : Tenants) (space uid : String) (cluster : Cluster versions) :
    Act → Cluster versions → Prop where
  | stay : Move tenants space uid cluster .plain cluster
  /-- A policy is changed, or removed where it does not carry the mark. -/
  | policy {name : String} {object : Json} {store : Store versions}
      (stored : (cluster.policies name).stored = some object)
      (same : ∀ changed, store.stored = some changed → object.SameIdentity changed)
      (marked : object.IsMarked → ∃ changed, store.stored = some changed ∧ changed.IsMarked) :
      Move tenants space uid cluster .plain (cluster.setPolicy name store)
  /-- The mark is taken away from a policy that owns nothing. -/
  | release {name : String} {object : Json} {store : Store versions}
      (stored : (cluster.policies name).stored = some object)
      (same : ∀ changed, store.stored = some changed → object.SameIdentity changed)
      (released : cluster.Released uid name) :
      Move tenants space uid cluster (.release name) (cluster.setPolicy name store)
  /-- A policy is created with an identity that no policy has had. -/
  | create {name given : String} {object : Json} {store : Store versions}
      (absent : (cluster.policies name).stored = none) (fresh : given ∉ cluster.issued)
      (stored : store.stored = some object) (named : object.name? = some (.str name))
      (isGiven : object.uid? = some (.str given)) :
      Move tenants space uid cluster .plain
        { cluster.setPolicy name store with issued := given :: cluster.issued }
  /-- A firewall configuration is written that has the owner only if it had it before. -/
  | firewall {name : String} {store : Store versions}
      (since : (cluster.firewalls name).Since store)
      (owned : ∀ object, store.stored = some object → uid ∈ object.ownerUids →
        cluster.Owned uid name) :
      Move tenants space uid cluster .plain (cluster.setFirewall name store)
  /-- The firewall configuration of the peer is written for a policy that carries the mark. -/
  | claim {name firewall : String} {store : Store versions}
      (since : (cluster.firewalls firewall).Since store)
      (isHome : tenants.IsHome space firewall) (keeps : cluster.Keeps uid name) :
      Move tenants space uid cluster (.claim name) (cluster.setFirewall firewall store)

/-- A change of a policy that keeps its identity and its mark is a move. -/
theorem Move.settle {name : String} {object changed : Json}
    (stored : (cluster.policies name).stored = some object) (same : object.SameIdentity changed)
    (marked : object.IsMarked → changed.IsMarked) :
    cluster.Move tenants space uid .plain
      (cluster.setPolicy name ((cluster.policies name).settle changed)) := by
  refine .policy stored (fun later => same.of_settle) fun isMarked => ?_
  rw [Store.settle_of_mem (marked isMarked)]
  refine ⟨_, rfl, ?_⟩
  unfold Json.IsMarked Store.next
  rw [Json.finalizers_stamp]
  exact marked isMarked

/-! ### Policies -/

/-- Where a policy is changed that keeps its identity, policies have the identities they had. -/
theorem has_of_setPolicy {name other : String} {object : Json} {store : Store versions}
    (stored : (cluster.policies name).stored = some object)
    (same : ∀ changed, store.stored = some changed → object.SameIdentity changed)
    (has : (cluster.setPolicy name store).Has uid other) : cluster.Has uid other := by
  obtain ⟨changed, isStored, isIt⟩ := has
  by_cases isName : other = name
  · subst isName
    rw [policies_setPolicy] at isStored
    exact ⟨object, stored, (same changed isStored).uid ▸ isIt⟩
  · rw [policies_setPolicy_of_ne isName] at isStored
    exact ⟨changed, isStored, isIt⟩

/-- A change of a policy changes no owner. -/
theorem Owned.setPolicy {firewall : String} (owned : cluster.Owned uid firewall) (name : String)
    (store : Store versions) : (cluster.setPolicy name store).Owned uid firewall := owned

/-- A change of another policy takes no mark away. -/
theorem keeps_setPolicy_of_ne {name other : String} {store : Store versions}
    (isOther : other ≠ name) (keeps : cluster.Keeps uid other) :
    (cluster.setPolicy name store).Keeps uid other := by
  obtain ⟨object, stored, isIt, isMarked⟩ := keeps
  refine ⟨object, ?_, isIt, isMarked⟩
  rw [policies_setPolicy_of_ne isOther]
  exact stored

/-- What carries the mark stays, unless the pass over it takes the mark away. -/
theorem Move.keeps (move : Move tenants space uid cluster act later) {name : String}
    (keeps : cluster.Keeps uid name) (others : act ≠ .release name) : later.Keeps uid name := by
  cases move with
  | stay => exact keeps
  | @policy other object store stored same marked =>
    by_cases isName : name = other
    · subst isName
      obtain ⟨kept, isStored, isIt, isMarked⟩ := keeps
      cases stored.symm.trans isStored
      obtain ⟨changed, isChanged, stillMarked⟩ := marked isMarked
      refine ⟨changed, ?_, (same changed isChanged).uid.trans isIt, stillMarked⟩
      rw [policies_setPolicy]
      exact isChanged
    · exact keeps_setPolicy_of_ne isName keeps
  | @release other object store stored same released =>
    have isOther : name ≠ other := fun isName => others (isName ▸ rfl)
    exact keeps_setPolicy_of_ne isOther keeps
  | @create other given object store absent fresh stored named isGiven =>
    have isOther : name ≠ other := by
      intro isName
      subst isName
      obtain ⟨kept, isStored, _⟩ := keeps
      cases absent.symm.trans isStored
    exact keeps_setPolicy_of_ne isOther keeps
  | firewall since owned => exact keeps
  | claim since isHome kept => exact keeps

/-! ### Firewall configurations -/

/-- What owns a firewall configuration owned one before, or it was written as an owner. -/
theorem Move.owned (move : Move tenants space uid cluster act later) {firewall : String}
    (owned : later.Owned uid firewall) :
    cluster.Owned uid firewall ∨ tenants.IsHome space firewall ∧
      ∃ name, act = .claim name ∧ cluster.Keeps uid name := by
  cases move with
  | stay => exact .inl owned
  | policy stored same marked => exact .inl owned
  | release stored same released => exact .inl owned
  | create absent fresh stored named isGiven => exact .inl owned
  | @firewall name store since had =>
    obtain ⟨object, stored, isOwner⟩ := owned
    by_cases isName : firewall = name
    · subst isName
      rw [firewalls_setFirewall] at stored
      exact .inl (had object stored isOwner)
    · rw [firewalls_setFirewall_of_ne isName] at stored
      exact .inl ⟨object, stored, isOwner⟩
  | @claim name written store since isHome keeps =>
    obtain ⟨object, stored, isOwner⟩ := owned
    by_cases isName : firewall = written
    · exact .inr ⟨isName ▸ isHome, name, rfl, keeps⟩
    · rw [firewalls_setFirewall_of_ne isName] at stored
      exact .inl ⟨object, stored, isOwner⟩

/-- What was stored at some time was. -/
theorem Move.recalls (move : Move tenants space uid cluster act later) {name : String}
    {object : Json} (recalls : cluster.Recalls name object) : later.Recalls name object := by
  obtain ⟨earlier, stored, since⟩ := recalls
  refine ⟨earlier, stored, since.trans ?_⟩
  have changed {other : String} {store : Store versions}
      (after : (cluster.firewalls other).Since store) :
      (cluster.firewalls name).Since ((cluster.setFirewall other store).firewalls name) := by
    by_cases isName : name = other
    · subst isName
      rw [firewalls_setFirewall]
      exact after
    · rw [firewalls_setFirewall_of_ne isName]
      exact .refl _
  cases move with
  | firewall after owned => exact changed after
  | claim after isHome keeps => exact changed after
  | _ => exact .refl _

/-! ### What stays true -/

/-- The policy of the identity is there as before, or it has just been created. -/
theorem Move.has (move : Move tenants space uid cluster act later) {name : String}
    (has : later.Has uid name) :
    cluster.Has uid name ∨ uid ∉ cluster.issued ∧ uid ∈ later.issued ∧
      ∀ other, other ≠ name → later.Has uid other → cluster.Has uid other := by
  cases move with
  | stay => exact .inl has
  | policy stored same marked => exact .inl (has_of_setPolicy stored same has)
  | release stored same released => exact .inl (has_of_setPolicy stored same has)
  | @create created given object store absent fresh stored named isGiven =>
    obtain ⟨found, isStored, isIt⟩ := has
    by_cases isName : name = created
    · subst isName
      rw [policies_setPolicy] at isStored
      cases stored.symm.trans isStored
      cases isGiven.symm.trans isIt
      refine .inr ⟨fresh, List.mem_cons_self, fun other isOther has => ?_⟩
      obtain ⟨found, isStored, isIt⟩ := has
      rw [policies_setPolicy_of_ne isOther] at isStored
      exact ⟨found, isStored, isIt⟩
    · rw [policies_setPolicy_of_ne isName] at isStored
      exact .inl ⟨found, isStored, isIt⟩
  | firewall since owned => exact .inl has
  | claim since isHome keeps => exact .inl has

/-- No identity that was issued is forgotten. -/
theorem Move.issued (move : Move tenants space uid cluster act later) {given : String}
    (issued : given ∈ cluster.issued) : given ∈ later.issued := by
  cases move with
  | create absent fresh stored named isGiven => exact List.mem_cons_of_mem _ issued
  | _ => exact issued

/-- Every policy has the name that it is stored under. -/
theorem Move.named (move : Move tenants space uid cluster act later)
    (before : ∀ name object, (cluster.policies name).stored = some object →
      object.name? = some (.str name)) {name : String} {object : Json}
    (stored : (later.policies name).stored = some object) : object.name? = some (.str name) := by
  have changed {other : String} {store : Store versions}
      (after : ∀ object, store.stored = some object → object.name? = some (.str other))
      (stored : ((cluster.setPolicy other store).policies name).stored = some object) :
      object.name? = some (.str name) := by
    by_cases isName : name = other
    · subst isName
      rw [policies_setPolicy] at stored
      exact after object stored
    · rw [policies_setPolicy_of_ne isName] at stored
      exact before name object stored
  cases move with
  | stay => exact before name object stored
  | @policy other found store isStored same marked =>
    exact changed (fun object after => (same object after).name.trans (before other found isStored))
      stored
  | @release other found store isStored same released =>
    exact changed (fun object after => (same object after).name.trans (before other found isStored))
      stored
  | create absent fresh isStored named isGiven =>
    refine changed (fun object after => ?_) stored
    cases isStored.symm.trans after
    exact named
  | firewall since owned => exact before name object stored
  | claim since isHome keeps => exact before name object stored

/-- What owns nothing still owns nothing, unless the pass over it writes it as an owner. -/
theorem Move.released (move : Move tenants space uid cluster act later)
    (sound : cluster.Sound tenants space uid) {name : String}
    (released : cluster.Released uid name) (others : act ≠ .claim name) :
    later.Released uid name := by
  intro has firewall owned
  rcases move.has has with before | ⟨fresh, _, _⟩
  · rcases move.owned owned with owned | ⟨_, claimer, rfl, keeps⟩
    · exact released before firewall owned
    · exact others (sound.unique claimer name keeps.has before ▸ rfl)
  · have none (other : String) : ¬ cluster.Keeps uid other :=
      fun keeps => fresh (sound.issued other keeps.has)
    rcases move.owned owned with owned | ⟨_, claimer, _, keeps⟩
    · obtain ⟨_, other, keeps⟩ := sound.owned firewall owned
      exact none other keeps
    · exact none claimer keeps

/-- Whatever happens, all is well afterwards. -/
theorem Move.sound (move : Move tenants space uid cluster act later)
    (sound : cluster.Sound tenants space uid) : later.Sound tenants space uid where
  named _ _ stored := move.named sound.named stored
  unique name other has hasOther := by
    by_contra different
    rcases move.has has with before | ⟨fresh, _, same⟩
    · rcases move.has hasOther with beforeOther | ⟨fresh, _, _⟩
      · exact different (sound.unique name other before beforeOther)
      · exact fresh (sound.issued name before)
    · exact fresh (sound.issued other (same other (Ne.symm different) hasOther))
  issued name has := by
    rcases move.has has with before | ⟨_, issued, _⟩
    · exact move.issued (sound.issued name before)
    · exact issued
  owned firewall owned := by
    rcases move.owned owned with before | ⟨isHome, name, rfl, keeps⟩
    · obtain ⟨isHome, name, keeps⟩ := sound.owned firewall before
      refine ⟨isHome, name, move.keeps keeps ?_⟩
      intro releases
      subst releases
      cases move with
      | release stored same released => exact released keeps.has firewall before
    · exact ⟨isHome, name, move.keeps keeps nofun⟩

end Cluster

end PeerFirewall
