import PeerFirewall.Fabric.ClusterInfo
import PeerFirewall.Resource.Firewall
import PeerFirewall.Resource.Policy

/-!
# The firewall configuration that a policy should own

`Policy.desiredFirewall?` builds the configuration for the peer of a policy, and `Firewall.merge`
lays it over the one that is stored: the content is replaced as a whole, while labels, owners and
all other metadata that others have set are kept.
-/
namespace PeerFirewall

/-- The firewall configuration of the peer of that identifier, owned by the policy; there is none
if the policy has no name or no identity to own it by. -/
def Policy.desiredFirewall? (policy : Policy) (clusterId : String) (spec : FirewallSpec) :
    Option Firewall :=
  (Resource.controllerReference? .policy policy.metadata).map fun owner =>
    { metadata :=
        { Metadata.empty with
          name := some (ClusterInfo.firewallName clusterId)
          «namespace» := policy.metadata.namespace
          labels := some FabricLabel.firewallLabels
          ownerReferences := some [owner] }
      spec := spec }

/-- Puts an owner in place of the first one of the same identity, or at the end. -/
def setOwner (owner : OwnerReference) : List OwnerReference → List OwnerReference
  | [] => [owner]
  | other :: rest =>
    if other.uid = owner.uid then owner :: rest else other :: setOwner owner rest

namespace Metadata

/-- The metadata with the labels and owners of other metadata set. -/
def withMarks (current desired : Metadata) : Metadata :=
  { current with
    labels :=
      some ((current.labels.getD .empty).insertAll (desired.labels.getD .empty).entries)
    ownerReferences :=
      some (desired.owners.foldl (fun owners owner => setOwner owner owners) current.owners) }

end Metadata

namespace Firewall

/-- The stored configuration with the desired one laid over it. -/
def overlay (current desired : Firewall) : Firewall :=
  ⟨current.metadata.withMarks desired.metadata, desired.spec⟩

/-- The configuration to store in place of the current one; `none` if the current one is as it
should be. -/
def merge (current desired : Firewall) : Option Firewall :=
  let updated := current.overlay desired
  if updated = current then none else some updated

end Firewall

end PeerFirewall
