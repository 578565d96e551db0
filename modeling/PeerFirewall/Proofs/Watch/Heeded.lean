import PeerFirewall.Proofs.Fabric.Listing
import PeerFirewall.Proofs.Watch.Affected

/-!
# Changes of listed pods are heeded

Policies are compiled against pods that the API server lists by selectors, and which policies a
change of a pod affects is told from the marks on the pod. Both agree but for a pod that is marked
as a shadow pod and as offloaded by a peer on whose node it is not: it is listed among the pods
offloaded by that peer, but as a shadow pod it belongs to the peer of its node only. A change of any
other listed pod affects every policy of the peer that it is listed for
(`KnownPolicies.steps_heed`).
-/
namespace PeerFirewall

/-- A pod that is listed among the pods offloaded by a peer belongs to the peer, unless it is marked
as a shadow pod and not on the node of the peer. -/
theorem Pod.belongsTo_of_offloaded {pod : Pod} {clusterId : String} (label : LabelValue clusterId)
    (listed : (PodQuery.offloadedFrom clusterId).Lists pod) :
    pod.BelongsTo clusterId ↔
      (pod.metadata.label? "liqo.io/local-pod" = some "true" → pod.nodeName = some clusterId) := by
  constructor
  · rintro (⟨_, node, _⟩ | ⟨unmarked, _, _⟩) marked
    · exact node
    · exact absurd marked unmarked
  · intro placed
    by_cases marked : pod.metadata.label? "liqo.io/local-pod" = some "true"
    · exact .scheduled marked (placed marked) label.ne_empty
    · exact .offloaded marked ((PodQuery.lists_offloadedFrom label).1 listed) label.ne_empty

/-- A pod that is listed among the shadow pods of a peer belongs to the peer. -/
theorem Pod.belongsTo_of_shadow {pod : Pod} {clusterId : String} (label : LabelValue clusterId)
    (listed : (PodQuery.shadowsOf clusterId).Lists pod) : pod.BelongsTo clusterId := by
  obtain ⟨marked, node⟩ := (PodQuery.lists_shadowsOf label).1 listed
  exact .scheduled marked node label.ne_empty

/-- Whether a table says of each change of a pod that is listed for a peer that it affects the
policies of the peer, given the policy that is known under each identity. -/
structure PolicyTable.Heeds (table : PolicyTable) (info : ClusterInfo)
    (known? : ObjectName → Option Policy) : Prop where
  /-- A pod that is listed among the shadow pods of a peer affects every policy in the tenant
  namespace of the peer. -/
  shadows : ∀ pod clusterId, LabelValue clusterId → (PodQuery.shadowsOf clusterId).Lists pod →
    ∀ key policy, known? key = some policy →
      policy.metadata.namespace = some (info.tenants.stem ++ "-" ++ clusterId) →
      key ∈ table.affectedByPod info pod
  /-- So does a pod that is listed among the pods offloaded by a peer, unless it is marked as a
  shadow pod and not on the node of the peer. -/
  offloaded : ∀ pod clusterId, LabelValue clusterId →
    (PodQuery.offloadedFrom clusterId).Lists pod →
    (pod.metadata.label? "liqo.io/local-pod" = some "true" → pod.nodeName = some clusterId) →
    ∀ key policy, known? key = some policy →
      policy.metadata.namespace = some (info.tenants.stem ++ "-" ++ clusterId) →
      key ∈ table.affectedByPod info pod
  /-- In that case it affects no policy in the tenant namespace of the peer. -/
  elsewhere : ∀ pod clusterId, LabelValue clusterId →
    (PodQuery.offloadedFrom clusterId).Lists pod →
    pod.metadata.label? "liqo.io/local-pod" = some "true" → pod.nodeName ≠ some clusterId →
    ∀ key policy, known? key = some policy →
      policy.metadata.namespace = some (info.tenants.stem ++ "-" ++ clusterId) →
      key ∉ table.affectedByPod info pod

namespace KnownPolicies

variable {policies : KnownPolicies} {past : List PolicyEvent}

/-- A pod affects a known policy of a peer just where it belongs to the peer. -/
theorem Follows.affects_iff (follows : policies.Follows past) {info : ClusterInfo} (pod : Pod)
    {key : ObjectName} {policy : Policy} {clusterId : String}
    (isKnown : PolicyEvent.known? key past = some policy)
    (home : policy.metadata.namespace = some (info.tenants.stem ++ "-" ++ clusterId)) :
    key ∈ policies.known.affectedByPod info pod ↔ pod.BelongsTo clusterId := by
  rw [PolicyTable.mem_affectedByPod follows]
  constructor
  · rintro ⟨_, other, isKnownToo, belongs, homeToo⟩
    cases isKnown.symm.trans isKnownToo
    rwa [Tenants.namespaceOf_injective (Option.some.inj (home.symm.trans homeToo))]
  · exact fun belongs => ⟨policy, clusterId, isKnown, belongs, home⟩

/-- What is known after events heeds the pods that are listed for peers. -/
theorem Follows.heeds (follows : policies.Follows past) (info : ClusterInfo) :
    policies.known.Heeds info (PolicyEvent.known? · past) where
  shadows pod _ label listed _ _ isKnown home :=
    (follows.affects_iff pod isKnown home).2 (Pod.belongsTo_of_shadow label listed)
  offloaded pod _ label listed placed _ _ isKnown home :=
    (follows.affects_iff pod isKnown home).2 ((Pod.belongsTo_of_offloaded label listed).2 placed)
  elsewhere pod _ label listed marked away _ _ isKnown home isAffected :=
    have belongs := (follows.affects_iff pod isKnown home).1 isAffected
    away ((Pod.belongsTo_of_offloaded label listed).1 belongs marked)

/-- After every history of events over named policies the table of known policies is there, and a
change of a pod that is listed for a peer affects the policies of the peer, unless the pod is a
shadow pod elsewhere. -/
theorem steps_heed (info : ClusterInfo) (history : List PolicyEvent)
    (named : ∀ event ∈ history, event.Named) :
    ∃ after, KnownPolicies.none.steps history = .ok after ∧
      after.known.Heeds info (PolicyEvent.known? · history.reverse) := by
  obtain ⟨after, steps, follows⟩ := steps_follow none_follows history named
  rw [List.append_nil] at follows
  exact ⟨after, steps, follows.heeds info⟩

/-- A history after which one policy is known. -/
def peered : List PolicyEvent := [.applied (bare "liqo-tenant-a" "peering")]

/-- A pod that is marked as a shadow pod and as offloaded by a peer. -/
def markedTwice (node : Option String) : Pod where
  metadata := { Metadata.empty with
    labels := some (.ofList [("liqo.io/local-pod", "true"), ("liqo.io/origin-cluster-id", "a")]) }
  nodeName := node
  podIp := Option.none

/-- The identifier of that peer is the value of a label. -/
theorem labelValue_a : LabelValue "a" where
  short := by decide
  each _ isIn := .inl (List.mem_singleton.1 isIn ▸ rfl)
  begins := ⟨'a', [], rfl, rfl⟩
  ends := ⟨[], 'a', rfl, rfl⟩

/-- The pod is listed among the pods offloaded by the peer, wherever it is. -/
theorem markedTwice_listed (node : Option String) :
    (PodQuery.offloadedFrom "a").Lists (markedTwice node) := by
  have origin : (markedTwice node).metadata.label? "liqo.io/origin-cluster-id" = some "a" := rfl
  exact (PodQuery.lists_offloadedFrom labelValue_a).2 origin

/-- On the node of the peer the pod is listed for it twice, and it affects the policy of the
peer. -/
theorem steps_heed_scheduled :
    ∃ after, KnownPolicies.none.steps peered = .ok after ∧
      (PodQuery.offloadedFrom "a").Lists (markedTwice (some "a")) ∧
      (PodQuery.shadowsOf "a").Lists (markedTwice (some "a")) ∧
      ⟨some "liqo-tenant-a", "peering"⟩ ∈
        after.known.affectedByPod .standard (markedTwice (some "a")) := by
  have named : ∀ event ∈ peered, event.Named := by decide
  obtain ⟨after, steps, heeds⟩ := steps_heed .standard peered named
  have shadow : (PodQuery.shadowsOf "a").Lists (markedTwice (some "a")) :=
    (PodQuery.lists_shadowsOf labelValue_a).2 ⟨by decide, rfl⟩
  refine ⟨after, steps, markedTwice_listed _, shadow, ?_⟩
  exact heeds.shadows _ "a" labelValue_a shadow _ (bare "liqo-tenant-a" "peering") (by decide) rfl

/-- On no node it is listed among the pods offloaded by the peer, but it affects nothing. -/
theorem steps_heed_unscheduled :
    LabelValue "a" ∧ (PodQuery.offloadedFrom "a").Lists (markedTwice Option.none) ∧
      ∃ after, KnownPolicies.none.steps peered = .ok after ∧
        after.known.find? ⟨some "liqo-tenant-a", "peering"⟩ =
          some (bare "liqo-tenant-a" "peering") ∧
        (bare "liqo-tenant-a" "peering").metadata.namespace =
          some (ClusterInfo.standard.tenants.namespaceOf "a") ∧
        after.known.affectedByPod .standard (markedTwice Option.none) = [] :=
  ⟨labelValue_a, markedTwice_listed _, _, rfl, by decide, rfl, by decide⟩

end KnownPolicies

end PeerFirewall
