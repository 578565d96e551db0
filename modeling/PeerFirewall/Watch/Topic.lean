import PeerFirewall.Api.Client
import PeerFirewall.Watch.Affected

/-!
# What the controller watches

Besides the policies the controller watches everything that their firewall configurations are made
of, and the configurations themselves. A watch begins with a list of what is there.
-/
namespace PeerFirewall

/-- Objects that the controller watches. -/
inductive Topic where
  | policies
  | firewalls
  /-- The placeholders of pods that run on a peer. -/
  | shadowPods
  /-- The pods that peers have offloaded to this cluster. -/
  | offloadedPods
  | networks
  | namespaceOffloadings
deriving DecidableEq, Repr

/-- What happened to a watched object. -/
inductive ChangeType where
  | added
  | modified
  | deleted
deriving DecidableEq, Repr

/-- A change of a watched object. -/
inductive Change where
  | policy (type : ChangeType) (policy : Policy)
  | firewall (firewall : Firewall)
  | pod (pod : Pod)
  | network (network : Network)
  | namespaceOffloading (offloading : NamespaceOffloading)

namespace ChangeType

/-- The type of a change by its name in a watch. -/
def ofName? : String → Option ChangeType
  | "ADDED" => some added
  | "MODIFIED" => some modified
  | "DELETED" => some deleted
  | _ => none

end ChangeType

namespace Topic

/-- What is watched where the API server serves networks and offloadings, or does not. -/
def watched (networks namespaceOffloadings : Bool) : List Topic :=
  [policies, firewalls, shadowPods, offloadedPods] ++
    (if networks then [Topic.networks] else []) ++
    (if namespaceOffloadings then [Topic.namespaceOffloadings] else [])

/-- The kind of the objects. -/
def kind : Topic → Kind
  | policies => .policy
  | firewalls => .firewall
  | shadowPods | offloadedPods => .pod
  | networks => .network
  | namespaceOffloadings => .namespaceOffloading

/-- Which objects of the kind are watched. -/
def selector : Topic → ApiCall.Selector
  | policies | networks | namespaceOffloadings => .all
  | firewalls => .byLabels FabricLabel.fabricFirewalls
  | shadowPods => .byLabels FabricLabel.shadowPods
  | offloadedPods => .byLabels FabricLabel.originClusterId

/-- The request for the objects that are there. -/
def listRequest (topic : Topic) : Request :=
  ⟨.get, .collection ⟨topic.kind, none⟩, topic.selector.query, none⟩

/-- The request for all that happens to them from then on. -/
def watchRequest (topic : Topic) : Request :=
  ⟨.get, .collection ⟨topic.kind, none⟩, topic.selector.query ++ [("watch", "true")], none⟩

/-- Reads a change of an object. -/
def decodeChange (topic : Topic) (type : ChangeType) : Decoder Change := fun value =>
  match topic with
  | policies => (Policy.decode value).map (.policy type)
  | firewalls => (Firewall.decode value).map .firewall
  | shadowPods | offloadedPods => (Pod.decode value).map .pod
  | networks => (Network.decode value).map .network
  | namespaceOffloadings => (NamespaceOffloading.decode value).map .namespaceOffloading

/-- The objects that are there, each as an addition; none, if they cannot be listed. -/
def list (topic : Topic) : Program world (Option (List Change)) :=
  Except.toOption <$>
    (ApiCall.exchange (ApiCall.decodeList (topic.decodeChange .added)) topic.listRequest).run

end Topic

end PeerFirewall
