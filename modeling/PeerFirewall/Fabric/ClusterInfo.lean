import PeerFirewall.Fabric.Tenant
import PeerFirewall.Resource.Pod

/-!
# Where the fabric keeps its state

The names under which the fabric publishes what policies are compiled against: the namespaces and
networks of this cluster and its peers, and the labels that mark pods and firewall configurations.
-/
namespace PeerFirewall

/-- Where the local cluster publishes the state that policies are compiled against. -/
structure ClusterInfo where
  tenants : Tenants
  /-- The namespace of the fabric's own resources. -/
  fabricNamespace : String
  /-- The name of the network that announces the pods of the local cluster. -/
  podCidrNetwork : String
deriving DecidableEq, Repr

namespace ClusterInfo

/-- The names unless others are set. -/
def standard : ClusterInfo := ⟨.standard, "liqo", "pod-cidr"⟩

/-- The network that announces the pods of a peer. -/
def remotePodNetwork (clusterId : String) : String := clusterId ++ "-pod"

/-- The network that announces the external addresses of a peer. -/
def remoteExternalNetwork (clusterId : String) : String := clusterId ++ "-external"

/-- The firewall configuration of a peer. -/
def firewallName (clusterId : String) : String := clusterId ++ "-security-fabric"

end ClusterInfo

namespace FabricLabel

/-- Marks shadow pods, the local placeholders of workloads running on a provider. -/
def localPod : String := "liqo.io/local-pod"

/-- Marks pods that were offloaded to this cluster with the identifier of the consumer. -/
def originClusterId : String := "liqo.io/origin-cluster-id"

/-- Says what a firewall configuration belongs to. -/
def firewallCategory : String := "networking.liqo.io/firewall-category"

/-- The category of what belongs to the fabric. -/
def fabricCategory : String := "fabric"

/-- Says where a firewall configuration applies. -/
def firewallSubcategory : String := "networking.liqo.io/firewall-subcategory"

/-- The subcategory of what applies on every node. -/
def allNodes : String := "all-nodes"

/-- Selects shadow pods. -/
def shadowPods : String := localPod ++ "=true"

/-- Selects every pod that is no shadow pod. -/
def nonShadowPods : String := localPod ++ "!=true"

/-- Selects the pods offloaded here by a consumer. -/
def podsFrom (clusterId : String) : String := originClusterId ++ "=" ++ clusterId

/-- Selects the firewall configurations of the fabric. -/
def fabricFirewalls : String := firewallCategory ++ "=" ++ fabricCategory

/-- The labels by which the enforcement engine selects a firewall configuration of the fabric. -/
def firewallLabels : Labels :=
  .ofList [(firewallCategory, fabricCategory), (firewallSubcategory, allNodes)]

end FabricLabel

namespace Pod

/-- Whether the pod is the placeholder of a workload running on a provider. -/
def isShadow (pod : Pod) : Bool := pod.metadata.label? FabricLabel.localPod = some "true"

/-- The consumer that the pod was offloaded from. -/
def originClusterId (pod : Pod) : Option String := pod.metadata.label? FabricLabel.originClusterId

/-- The peer a pod belongs to: a shadow pod to the provider whose virtual node it is scheduled on,
any other pod to the consumer it was offloaded from. -/
def clusterId (pod : Pod) : Option String :=
  (if pod.isShadow then pod.nodeName else pod.originClusterId).filter (· ≠ "")

end Pod

end PeerFirewall
