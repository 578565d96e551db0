import PeerFirewall.Net.Cidr
import PeerFirewall.Program
import PeerFirewall.Resource.Pod

/-!
# What compilation asks of the cluster

A policy is compiled against announced CIDRs and listed pods. Each query may fail; a failure is
explained by a text and by the causes behind it, the innermost last.
-/
namespace PeerFirewall

/-- Why the state of the cluster could not be read. -/
structure ReadError where
  message : String
  causes : List String
deriving DecidableEq, Repr

/-- A question for an announced network. -/
inductive CidrQuery where
  /-- The pod CIDR that the local cluster announces. -/
  | localPods
  /-- The pod CIDR of a peer, as remapped into the local address space. -/
  | remotePods (clusterId : String)
  /-- The external CIDR of a peer, as remapped into the local address space. -/
  | remoteExternal (clusterId : String)
deriving DecidableEq, Repr

/-- A question for a list of pods. -/
inductive PodQuery where
  /-- The pods offloaded to this cluster by a consumer. -/
  | offloadedFrom (clusterId : String)
  /-- The shadow pods scheduled on the virtual node of a provider. -/
  | shadowsOf (clusterId : String)
  /-- The pods, shadow pods apart, in namespaces that are offloaded to peers. -/
  | inOffloadedNamespaces
  /-- The running pods, shadow pods apart, of a namespace. -/
  | inNamespace (name : String)
deriving DecidableEq, Repr

/-- A question about the state of the cluster. -/
inductive Query where
  | cidr (query : CidrQuery)
  | pods (query : PodQuery)
deriving DecidableEq, Repr

/-- The answer to a query: a network or a list of pods, or why there is none. -/
abbrev Query.Answer : Query → Type
  | cidr _ => Except ReadError Net.Cidr
  | pods _ => Except ReadError (List Pod)

/-- The queries about the cluster as an interface. -/
def clusterState : Interface := ⟨Query, Query.Answer⟩

end PeerFirewall
