import PeerFirewall.Fabric.ClusterInfo
import PeerFirewall.Resource.Firewall
import PeerFirewall.Resource.Network
import PeerFirewall.Watch.Known

/-!
# Which policies a change affects

A change of a pod or a network affects the policies in the tenant namespace of the peer that it
belongs to. Any namespace may start or stop being offloaded, so a change of an offloading affects
every policy. A firewall configuration affects the policies that own it.
-/
namespace PeerFirewall

/-- The peer whose addresses a network announces; networks in the namespace of the fabric itself
describe the local cluster. -/
def Network.clusterId? (network : Network) (info : ClusterInfo) : Option String :=
  network.metadata.namespace.bind fun name =>
    if name = info.fabricNamespace then none else (info.tenants.clusterId name).toOption

/-- The policies that own a firewall configuration. -/
def Firewall.owningPolicies (firewall : Firewall) : List ObjectName :=
  (firewall.metadata.owners.filter fun owner =>
    owner.apiVersion = Kind.policy.apiVersion ∧ owner.kind = Kind.policy.kind).map fun owner =>
      ⟨firewall.metadata.namespace, owner.name⟩

namespace PolicyTable

/-- The policies of a peer. -/
def ofPeer (table : PolicyTable) (info : ClusterInfo) (clusterId : String) : List ObjectName :=
  table.namesIn (info.tenants.namespaceOf clusterId)

/-- The policies that a change of a pod affects. -/
def affectedByPod (table : PolicyTable) (info : ClusterInfo) (pod : Pod) : List ObjectName :=
  match pod.clusterId with
  | some clusterId => table.ofPeer info clusterId
  | none => []

/-- The policies that a change of a network affects. -/
def affectedByNetwork (table : PolicyTable) (info : ClusterInfo) (network : Network) :
    List ObjectName :=
  match network.clusterId? info with
  | some clusterId => table.ofPeer info clusterId
  | none => []

/-- The policies that a change of an offloading affects. -/
def affectedByOffloading (table : PolicyTable) (_ : NamespaceOffloading) : List ObjectName :=
  table.keys

end PolicyTable

end PeerFirewall
