import PeerFirewall.Proofs.Fabric.Reads
import PeerFirewall.Proofs.Fabric.Tenant
import PeerFirewall.Proofs.Watch.History
import PeerFirewall.Watch.Affected

/-!
# Changes affect exactly the policies of their peer

Whatever has happened to the policies, a change of a pod or a network affects the policies in the
tenant namespace of its peer, each once, and no others, and a change of an offloading affects every
policy. So a change of a network that is read for the peer of a policy affects that policy
(`KnownPolicies.steps_map`).
-/
namespace PeerFirewall

/-- Whether a pod belongs to a peer. -/
inductive Pod.BelongsTo (pod : Pod) (clusterId : String) : Prop where
  /-- It is a shadow pod that is scheduled on the node of the peer. -/
  | scheduled (marked : pod.metadata.label? "liqo.io/local-pod" = some "true")
      (node : pod.nodeName = some clusterId) (named : clusterId ≠ "")
  /-- It is no shadow pod and was offloaded by the peer. -/
  | offloaded (unmarked : pod.metadata.label? "liqo.io/local-pod" ≠ some "true")
      (origin : pod.metadata.label? "liqo.io/origin-cluster-id" = some clusterId)
      (named : clusterId ≠ "")

/-- The peer of a pod is the one that it belongs to. -/
theorem Pod.clusterId_eq_some {pod : Pod} {clusterId : String} :
    pod.clusterId = some clusterId ↔ pod.BelongsTo clusterId := by
  rw [Pod.clusterId, Option.filter_eq_some_iff, decide_eq_true_iff]
  by_cases marked : pod.metadata.label? "liqo.io/local-pod" = some "true"
  · have isShadow : pod.isShadow = true := decide_eq_true marked
    rw [if_pos isShadow]
    constructor
    · exact fun ⟨node, named⟩ => .scheduled marked node named
    · rintro (⟨_, node, named⟩ | ⟨unmarked, _, _⟩)
      · exact ⟨node, named⟩
      · exact absurd marked unmarked
  · have notShadow : ¬ pod.isShadow = true := fun isShadow => marked (of_decide_eq_true isShadow)
    rw [if_neg notShadow]
    constructor
    · exact fun ⟨origin, named⟩ => .offloaded marked origin named
    · rintro (⟨isMarked, _, _⟩ | ⟨_, origin, named⟩)
      · exact absurd isMarked marked
      · exact ⟨origin, named⟩

/-- A network announces addresses of the peer in whose tenant namespace it is, unless that is the
namespace of the fabric itself. -/
theorem Network.clusterId?_eq_some {network : Network} {info : ClusterInfo} {clusterId : String} :
    network.clusterId? info = some clusterId ↔ clusterId ≠ "" ∧
      network.metadata.namespace = some (info.tenants.namespaceOf clusterId) ∧
      info.tenants.namespaceOf clusterId ≠ info.fabricNamespace := by
  unfold clusterId?
  cases network.metadata.namespace with
  | none => simp
  | some space =>
    have isPeer : (info.tenants.clusterId space).toOption = some clusterId ↔
        clusterId ≠ "" ∧ space = info.tenants.namespaceOf clusterId := by
      rw [← Tenants.clusterId_eq_ok]
      cases info.tenants.clusterId space <;> simp [Except.toOption]
    rw [Option.bind_some]
    split
    · rename_i reserved
      simp only [reduceCtorEq, Option.some.injEq, false_iff]
      rintro ⟨_, rfl, free⟩
      exact free reserved
    · rename_i free
      rw [isPeer, Option.some.injEq]
      constructor
      · rintro ⟨named, rfl⟩
        exact ⟨named, rfl, free⟩
      · exact fun ⟨named, same, _⟩ => ⟨named, same⟩

/-- Whether a request is for a network. -/
def Request.IsForNetwork (request : Request) (network : Network) : Prop :=
  ∃ name, network.metadata.name = some name ∧
    request.endpoint = .object (ApiCall.objects Network network.metadata.namespace) name

/-- Whether a question is about networks in a namespace. -/
def WorldQuestion.IsOnNetworks (space : String) : WorldQuestion → Prop
  | send request => request.endpoint.objects? = some (ApiCall.objects Network (some space))
  | clock | look _ => True

/-- The networks of a peer are read in its tenant namespace. -/
theorem ClusterInfo.asks_readCidr {info : ClusterInfo} {clusterId : String} {query : CidrQuery}
    (ofPeer : query = .remotePods clusterId ∨ query = .remoteExternal clusterId) :
    (info.readCidr query).run.Asks
      (WorldQuestion.IsOnNetworks (info.tenants.namespaceOf clusterId)) := by
  have reads (name : String) : (ClusterRead.network (info.tenants.namespaceOf clusterId)
      name).run.Asks (WorldQuestion.IsOnNetworks (info.tenants.namespaceOf clusterId)) :=
    ClusterRead.asks_network rfl
  rcases ofPeer with rfl | rfl <;>
    exact (reads _).bindOk fun _ => ClusterRead.asks_ofExcept _

namespace KnownPolicies

variable {policies : KnownPolicies} {past : List PolicyEvent}

/-- The policies that are known are those of the events. -/
theorem Follows.mem_keys (follows : policies.Follows past) (key : ObjectName) :
    key ∈ policies.known.keys ↔ ∃ policy, PolicyEvent.known? key past = some policy := by
  rw [Keyed.mem_keys, follows.known]

/-- The policies that are known in a namespace are those of the events there. -/
theorem Follows.mem_namesIn (follows : policies.Follows past) (key : ObjectName) (space : String) :
    key ∈ policies.known.namesIn space ↔ ∃ policy, PolicyEvent.known? key past = some policy ∧
      policy.metadata.namespace = some space := by
  rw [PolicyTable.namesIn, List.mem_filter, follows.mem_keys, decide_eq_true_iff]
  constructor
  · rintro ⟨⟨policy, isKnown⟩, home⟩
    exact ⟨policy, isKnown, (PolicyEvent.identity_of_known isKnown).1.trans home⟩
  · rintro ⟨policy, isKnown, home⟩
    exact ⟨⟨policy, isKnown⟩, (PolicyEvent.identity_of_known isKnown).1.symm.trans home⟩

end KnownPolicies

namespace PolicyTable

/-- Whether a table says of each change exactly which policies it affects, given the policy that is
known under each identity. -/
structure Maps (table : PolicyTable) (info : ClusterInfo)
    (known? : ObjectName → Option Policy) : Prop where
  /-- Every policy that is known is known under its own identity. -/
  identity : ∀ key policy, known? key = some policy → policy.metadata.IsOf key
  /-- A pod affects the policies in the tenant namespace of the peer that it belongs to. -/
  pod : ∀ pod, (table.affectedByPod info pod).Nodup ∧
    ∀ key, key ∈ table.affectedByPod info pod ↔ ∃ policy clusterId, known? key = some policy ∧
      pod.BelongsTo clusterId ∧
      policy.metadata.namespace = some (info.tenants.stem ++ "-" ++ clusterId)
  /-- A network affects the policies of its own namespace, if that is a tenant namespace and not
  the one of the fabric. -/
  network : ∀ network, (table.affectedByNetwork info network).Nodup ∧
    ∀ key, key ∈ table.affectedByNetwork info network ↔ ∃ policy clusterId,
      known? key = some policy ∧ clusterId ≠ "" ∧
      network.metadata.namespace = some (info.tenants.stem ++ "-" ++ clusterId) ∧
      info.tenants.stem ++ "-" ++ clusterId ≠ info.fabricNamespace ∧
      policy.metadata.namespace = network.metadata.namespace
  /-- So a network that is read for the peer of a policy affects the policy, unless the policy is in
  the namespace of the fabric. -/
  mapsBack : ∀ key policy space clusterId, known? key = some policy →
    policy.metadata.namespace = some space → info.tenants.clusterId space = .ok clusterId →
    space ≠ info.fabricNamespace →
    ∀ query, query = .remotePods clusterId ∨ query = .remoteExternal clusterId →
    ∀ t result, (info.readCidr query).run.Goes t result →
    ∀ e ∈ Transcript.sent t, ∀ network, e.request.IsForNetwork network →
      key ∈ table.affectedByNetwork info network
  /-- An offloading affects every policy. -/
  offloading : ∀ offloading, (table.affectedByOffloading offloading).Nodup ∧
    ∀ key, key ∈ table.affectedByOffloading offloading ↔ ∃ policy, known? key = some policy

variable {policies : KnownPolicies} {past : List PolicyEvent} {info : ClusterInfo}

/-- A pod affects the known policies in the tenant namespace of the peer that it belongs to. -/
theorem mem_affectedByPod (follows : policies.Follows past) (pod : Pod) (key : ObjectName) :
    key ∈ policies.known.affectedByPod info pod ↔ ∃ policy clusterId,
      PolicyEvent.known? key past = some policy ∧ pod.BelongsTo clusterId ∧
      policy.metadata.namespace = some (info.tenants.namespaceOf clusterId) := by
  unfold affectedByPod
  cases belongs : pod.clusterId with
  | none =>
    simp only [List.not_mem_nil, false_iff]
    rintro ⟨policy, clusterId, _, isOf, _⟩
    cases belongs.symm.trans (Pod.clusterId_eq_some.2 isOf)
  | some clusterId =>
    change key ∈ policies.known.namesIn (info.tenants.namespaceOf clusterId) ↔ _
    rw [follows.mem_namesIn]
    constructor
    · rintro ⟨policy, isKnown, home⟩
      exact ⟨policy, clusterId, isKnown, Pod.clusterId_eq_some.1 belongs, home⟩
    · rintro ⟨policy, _, isKnown, isOf, home⟩
      cases belongs.symm.trans (Pod.clusterId_eq_some.2 isOf)
      exact ⟨policy, isKnown, home⟩

/-- A network affects the known policies of its own namespace, if it announces addresses of a
peer. -/
theorem mem_affectedByNetwork (follows : policies.Follows past) (network : Network)
    (key : ObjectName) :
    key ∈ policies.known.affectedByNetwork info network ↔ ∃ policy clusterId,
      PolicyEvent.known? key past = some policy ∧ clusterId ≠ "" ∧
      network.metadata.namespace = some (info.tenants.namespaceOf clusterId) ∧
      info.tenants.namespaceOf clusterId ≠ info.fabricNamespace ∧
      policy.metadata.namespace = network.metadata.namespace := by
  unfold affectedByNetwork
  cases announces : network.clusterId? info with
  | none =>
    simp only [List.not_mem_nil, false_iff]
    rintro ⟨policy, clusterId, _, named, there, free, _⟩
    cases announces.symm.trans (Network.clusterId?_eq_some.2 ⟨named, there, free⟩)
  | some clusterId =>
    obtain ⟨named, there, free⟩ := Network.clusterId?_eq_some.1 announces
    change key ∈ policies.known.namesIn (info.tenants.namespaceOf clusterId) ↔ _
    rw [follows.mem_namesIn]
    constructor
    · rintro ⟨policy, isKnown, home⟩
      exact ⟨policy, clusterId, isKnown, named, there, free, home.trans there.symm⟩
    · rintro ⟨policy, _, isKnown, _, _, _, home⟩
      exact ⟨policy, isKnown, home.trans there⟩

/-- Each policy is affected once at most. -/
theorem ofPeer_nodup (table : PolicyTable) (info : ClusterInfo) (clusterId : String) :
    (table.ofPeer info clusterId).Nodup :=
  table.keys_nodup.filter _

end PolicyTable

namespace KnownPolicies

variable {policies : KnownPolicies} {past : List PolicyEvent}

/-- What is known after events says exactly which policies a change affects. -/
theorem Follows.maps (follows : policies.Follows past) (info : ClusterInfo) :
    policies.known.Maps info (PolicyEvent.known? · past) where
  identity _ _ isKnown := PolicyEvent.identity_of_known isKnown
  pod pod := by
    refine ⟨?_, PolicyTable.mem_affectedByPod follows pod⟩
    unfold PolicyTable.affectedByPod
    cases pod.clusterId with
    | none => exact .nil
    | some clusterId => exact policies.known.ofPeer_nodup info clusterId
  network network := by
    refine ⟨?_, PolicyTable.mem_affectedByNetwork follows network⟩
    unfold PolicyTable.affectedByNetwork
    cases network.clusterId? info with
    | none => exact .nil
    | some clusterId => exact policies.known.ofPeer_nodup info clusterId
  mapsBack key policy space clusterId isKnown home isPeer free query ofPeer t result goes e member
      network isFor := by
    obtain ⟨named, rfl⟩ := Tenants.clusterId_eq_ok.1 isPeer
    obtain ⟨name, _, isAt⟩ := isFor
    have reads : e.request.endpoint.objects? = some _ :=
      Transcript.sent_of_asks (ClusterInfo.asks_readCidr ofPeer) goes e member
    rw [isAt] at reads
    have there : network.metadata.namespace = some (info.tenants.namespaceOf clusterId) :=
      congrArg Collection.namespace (Option.some.inj reads)
    exact (PolicyTable.mem_affectedByNetwork follows network key).2
      ⟨policy, clusterId, isKnown, named, there, free, home.trans there.symm⟩
  offloading _ := ⟨policies.known.keys_nodup, follows.mem_keys⟩

/-- After every history of events over named policies the table of known policies is there, and it
says exactly which policies a change affects. -/
theorem steps_map (info : ClusterInfo) (history : List PolicyEvent)
    (named : ∀ event ∈ history, event.Named) :
    ∃ after, KnownPolicies.none.steps history = .ok after ∧
      after.known.Maps info (PolicyEvent.known? · history.reverse) := by
  obtain ⟨after, steps, follows⟩ := steps_follow none_follows history named
  rw [List.append_nil] at follows
  exact ⟨after, steps, follows.maps info⟩

/-- A policy without rules. -/
def bare (space name : String) : Policy where
  metadata := { Metadata.empty with name := some name, «namespace» := some space }
  spec := ⟨[]⟩
  status := Option.none

/-- A history in which a list drops one policy and brings another one. -/
def relisting : List PolicyEvent := [
  .applied (bare "liqo-tenant-a" "peering"),
  .listBegins,
  .listed (bare "liqo-tenant-b" "peering"),
  .listEnds]

/-- A shadow pod on a node, if it is scheduled. -/
def shadowPod (node : Option String) : Pod where
  metadata := { Metadata.empty with labels := some (.ofList [("liqo.io/local-pod", "true")]) }
  nodeName := node
  podIp := Option.none

/-- After such a history a shadow pod affects the policy that was brought, not the one that was
dropped. -/
theorem steps_map_relisting :
    ∃ after, KnownPolicies.none.steps relisting = .ok after ∧
      ⟨some "liqo-tenant-b", "peering"⟩ ∈
        after.known.affectedByPod .standard (shadowPod (some "b")) ∧
      ⟨some "liqo-tenant-a", "peering"⟩ ∉
        after.known.affectedByPod .standard (shadowPod (some "a")) := by
  have named : ∀ event ∈ relisting, event.Named := by decide
  obtain ⟨after, steps, maps⟩ := steps_map .standard relisting named
  refine ⟨after, steps, ?_, ?_⟩
  · refine ((maps.pod _).2 _).2 ⟨bare "liqo-tenant-b" "peering", "b", by decide, ?_, rfl⟩
    exact .scheduled (by decide) rfl (by decide)
  · intro isAffected
    obtain ⟨policy, _, isKnown, _⟩ := ((maps.pod _).2 _).1 isAffected
    have isDropped : PolicyEvent.known? ⟨some "liqo-tenant-a", "peering"⟩ relisting.reverse =
        Option.none := by decide
    cases isDropped.symm.trans isKnown

end KnownPolicies

end PeerFirewall
