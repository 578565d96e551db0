import PeerFirewall.Api.Client
import PeerFirewall.Fabric.ClusterInfo
import PeerFirewall.Resource.Network

/-!
# Reading the state of the cluster through the API server

Announced CIDRs are read from networks: that of the local cluster from the content of a network in
the namespace of the fabric, those of a peer, as remapped into the local address space, from the
status of networks in its tenant namespace. Pods are listed by the labels of the fabric.
-/
namespace PeerFirewall

/-- A read of the state of the cluster: it may send requests and it may fail. -/
abbrev ClusterRead (α : Type) := ExceptT ReadError (Program world) α

namespace ClusterRead

/-- A failure with nothing behind it. -/
def failure (message : String) : ReadError := ⟨message, []⟩

/-- What a failed call means for a read. -/
def explain (context : String) (error : ApiError) : ReadError :=
  ⟨context, error.message :: error.causes⟩

/-- A call to the API server as a part of a read. -/
def calling {α : Type} (context : String) (call : ApiCall α) : ClusterRead α :=
  ExceptT.mk (Except.mapError (explain context) <$> call.run)

/-- How messages name a network. -/
def networkText («namespace» name : String) : String := "Network " ++ «namespace» ++ "/" ++ name

/-- Reads a network, which has to exist. -/
def network («namespace» name : String) : ClusterRead Network := do
  let found ← calling ("failed to get " ++ networkText «namespace» name)
    (ApiCall.get? (some «namespace») name)
  match found with
  | some network => return network
  | none => throw (failure (networkText «namespace» name ++ " not found"))

/-- The network that a text announces, if it announces one. -/
def announced («namespace» name : String) (cidr : Option String) : Except ReadError Net.Cidr :=
  match cidr.filter (· ≠ "") with
  | none => .error (failure (networkText «namespace» name ++ " has no CIDR yet"))
  | some text =>
    match Net.Cidr.parse? text with
    | some network => .ok network
    | none =>
      .error ⟨networkText «namespace» name ++ " has an invalid CIDR " ++ Text.quoted text,
        [Net.Cidr.badText]⟩

/-- The pods of a namespace, or of all, that a selector selects. -/
def pods («namespace» : Option String) (selector : ApiCall.Selector) : ClusterRead (List Pod) :=
  calling "failed to list pods" (ApiCall.list «namespace» selector)

/-- Puts a name into its place in an ascending list, unless it is there. -/
def insertName (name : String) : List String → List String
  | [] => [name]
  | other :: rest =>
    if name < other then name :: other :: rest
    else if name = other then other :: rest
    else other :: insertName name rest

/-- Each name once, in ascending order. -/
def ascending (names : List String) : List String := names.foldr insertName []

/-- The pods of several namespaces, shadow pods apart, one namespace after the other. -/
def podsOfNamespaces : List String → ClusterRead (List Pod)
  | [] => pure []
  | name :: rest => do
    let here ← pods (some name) (.byLabels FabricLabel.nonShadowPods)
    let others ← podsOfNamespaces rest
    return here ++ others

end ClusterRead

namespace ClusterInfo

open ClusterRead

/-- The pod CIDR that the local cluster announces. -/
def readLocalPodCidr (info : ClusterInfo) : ClusterRead Net.Cidr := do
  let network ← network info.fabricNamespace info.podCidrNetwork
  announced info.fabricNamespace info.podCidrNetwork network.spec.cidr

/-- The CIDR of a peer that a network in its tenant namespace announces. -/
def readRemappedCidr (info : ClusterInfo) (clusterId name : String) : ClusterRead Net.Cidr := do
  let tenant := info.tenants.namespaceOf clusterId
  let network ← network tenant name
  announced tenant name (network.status.bind (·.cidr))

/-- Reads an announced network. -/
def readCidr (info : ClusterInfo) : CidrQuery → ClusterRead Net.Cidr
  | .localPods => info.readLocalPodCidr
  | .remotePods clusterId => info.readRemappedCidr clusterId (remotePodNetwork clusterId)
  | .remoteExternal clusterId =>
    info.readRemappedCidr clusterId (remoteExternalNetwork clusterId)

/-- The pods, shadow pods apart, in namespaces that are offloaded to peers. -/
def readOffloadedNamespaces : ClusterRead (List Pod) := do
  let offloadings : List NamespaceOffloading ←
    calling "failed to list NamespaceOffloadings" (ApiCall.list none .all)
  podsOfNamespaces (ascending (offloadings.filterMap (·.metadata.namespace)))

/-- Lists pods. -/
def readPods : PodQuery → ClusterRead (List Pod)
  | .offloadedFrom clusterId => pods none (.byLabels (FabricLabel.podsFrom clusterId))
  | .shadowsOf clusterId =>
    pods none ⟨some FabricLabel.shadowPods, some ("spec.nodeName=" ++ clusterId)⟩
  | .inOffloadedNamespaces => readOffloadedNamespaces
  | .inNamespace name =>
    pods (some name) ⟨some FabricLabel.nonShadowPods, some "status.phase=Running"⟩

/-- The answer to a query about the cluster, read through the API server. -/
def read (info : ClusterInfo) : (query : Query) → Program world query.Answer
  | .cidr query => (info.readCidr query).run
  | .pods query => (readPods query).run

end ClusterInfo

end PeerFirewall
