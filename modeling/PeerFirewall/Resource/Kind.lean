import PeerFirewall.Resource.Metadata

/-!
# Kinds of objects

A kind is served by the API under a group, a version and a plural name. A type that stands for the
objects of a kind says how they are written and read and where their metadata is.
-/
namespace PeerFirewall

/-- A kind of objects; the core group has an empty name. -/
structure Kind where
  group : String
  version : String
  kind : String
  plural : String
deriving DecidableEq, Repr

namespace Kind

/-- Group and version as objects name them. -/
def apiVersion (kind : Kind) : String :=
  if kind.group = "" then kind.version else kind.group ++ "/" ++ kind.version

/-- Policies. -/
def policy : Kind := ⟨"connectivity.liqo.io", "v1", "PeeringConnectivity", "peeringconnectivities"⟩

/-- Firewall configurations. -/
def firewall : Kind :=
  ⟨"networking.liqo.io", "v1beta1", "FirewallConfiguration", "firewallconfigurations"⟩

/-- Announced networks. -/
def network : Kind := ⟨"ipam.liqo.io", "v1alpha1", "Network", "networks"⟩

/-- Marks of offloaded namespaces. -/
def namespaceOffloading : Kind :=
  ⟨"offloading.liqo.io", "v1beta1", "NamespaceOffloading", "namespaceoffloadings"⟩

/-- Pods. -/
def pod : Kind := ⟨"", "v1", "Pod", "pods"⟩

/-- Deployments. -/
def deployment : Kind := ⟨"apps", "v1", "Deployment", "deployments"⟩

/-- Leases. -/
def lease : Kind := ⟨"coordination.k8s.io", "v1", "Lease", "leases"⟩

/-- Events. -/
def event : Kind := ⟨"events.k8s.io", "v1", "Event", "events"⟩

end Kind

/-- A type of the objects of one kind. -/
class Resource (α : Type) where
  kind : Kind
  metadata : α → Metadata
  encode : α → Json
  decode : Decoder α

namespace Resource

/-- The members that every written object begins with. -/
def typeMembers (kind : Kind) : List (String × Option Json) :=
  [("apiVersion", some (.str kind.apiVersion)), ("kind", some (.str kind.kind))]

/-- A field that, where it is present, has to be one given text. -/
def fixedText (name expected : String) : Record Unit :=
  Record.fieldWithDefault name (fun value =>
    match Decoder.string value with
    | .error error => .error error
    | .ok text => if text = expected then .ok () else .error (.wrongText text expected)) ()

/-- The fields by which an object says what it is. -/
def typeFields (kind : Kind) : Record Unit :=
  (fun () () => ()) <$> fixedText "apiVersion" kind.apiVersion <*> fixedText "kind" kind.kind

/-- The reference by which an object owned by this one names it as its controller; it needs a name
and an identity. -/
def controllerReference? (kind : Kind) (metadata : Metadata) : Option OwnerReference :=
  match metadata.name, metadata.uid with
  | some name, some uid =>
    some {
      apiVersion := kind.apiVersion
      kind := kind.kind
      name := name
      uid := uid
      controller := some true
      blockOwnerDeletion := none }
  | _, _ => none

end Resource

/-- What identifies an object of a known kind: its name within its namespace. -/
structure ObjectName where
  «namespace» : Option String
  name : String
deriving DecidableEq, Repr

/-- The complaint that an object cannot be referred to because it has no name. -/
inductive NamelessObject where
  | nameless
deriving DecidableEq, Repr

/-- The text of the complaint. -/
def NamelessObject.message : NamelessObject → String
  | nameless => ".metadata.name missing"

/-- The identity of an object. -/
def Metadata.objectName (metadata : Metadata) : Except NamelessObject ObjectName :=
  match metadata.name with
  | some name => .ok ⟨metadata.namespace, name⟩
  | none => .error .nameless

end PeerFirewall
