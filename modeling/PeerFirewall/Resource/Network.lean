import PeerFirewall.Resource.Kind

/-!
# Announced networks and offloaded namespaces

A `Network` announces a CIDR: its content holds the network that was asked for, its status the
network as remapped into the address space of the local cluster. A `NamespaceOffloading` says that
the namespace it stands in is offloaded to peers; nothing but its presence matters.
-/
namespace PeerFirewall

/-- A CIDR that may not be set yet. -/
structure AnnouncedCidr where
  cidr : Option String
deriving DecidableEq, Repr

/-- An announced network. -/
structure Network where
  metadata : Metadata
  spec : AnnouncedCidr
  status : Option AnnouncedCidr
deriving DecidableEq, Repr

/-- The content of the mark of an offloaded namespace. -/
structure OffloadingSpec where
  namespaceMappingStrategy : Option String
  podOffloadingStrategy : Option String
deriving DecidableEq, Repr

/-- The mark of an offloaded namespace. -/
structure NamespaceOffloading where
  metadata : Metadata
  spec : OffloadingSpec
deriving DecidableEq, Repr

namespace AnnouncedCidr

/-- An announcement as an object. -/
def encode (announced : AnnouncedCidr) : Json :=
  .record [("cidr", announced.cidr.map .str)]

/-- The fields of an announcement. -/
def fields : Record AnnouncedCidr :=
  AnnouncedCidr.mk <$> Record.optionalField "cidr" Decoder.string

end AnnouncedCidr

namespace Network

/-- A network as an object. -/
def encode (network : Network) : Json :=
  .record (Resource.typeMembers .network ++ [
    ("metadata", some network.metadata.encode),
    ("spec", some network.spec.encode),
    ("status", network.status.map AnnouncedCidr.encode)])

/-- The fields of a network. -/
def fields : Record Network :=
  Network.mk
  <$> Record.field "metadata" Metadata.decode
  <*> Record.field "spec" (AnnouncedCidr.fields.decode "NetworkSpec")
  <*> Record.optionalField "status" (AnnouncedCidr.fields.decode "NetworkStatus")

/-- Reads a network. -/
def decode : Decoder Network := fields.decode "Network"

instance : Resource Network where
  kind := .network
  metadata := Network.metadata
  encode := encode
  decode := decode

end Network

namespace OffloadingSpec

/-- The content of a mark of an offloaded namespace as an object. -/
def encode (spec : OffloadingSpec) : Json :=
  .record [
    ("namespaceMappingStrategy", spec.namespaceMappingStrategy.map .str),
    ("podOffloadingStrategy", spec.podOffloadingStrategy.map .str)]

/-- The fields of the content of a mark of an offloaded namespace. -/
def fields : Record OffloadingSpec :=
  OffloadingSpec.mk
  <$> Record.optionalField "namespaceMappingStrategy" Decoder.string
  <*> Record.optionalField "podOffloadingStrategy" Decoder.string

/-- Reads the content of a mark of an offloaded namespace. -/
def decode : Decoder OffloadingSpec := fields.decode "NamespaceOffloadingSpec"

end OffloadingSpec

namespace NamespaceOffloading

/-- A mark of an offloaded namespace as an object. -/
def encode (offloading : NamespaceOffloading) : Json :=
  .record (Resource.typeMembers .namespaceOffloading ++ [
    ("metadata", some offloading.metadata.encode),
    ("spec", some offloading.spec.encode)])

/-- The fields of a mark of an offloaded namespace. -/
def fields : Record NamespaceOffloading :=
  NamespaceOffloading.mk
  <$> Record.field "metadata" Metadata.decode
  <*> Record.field "spec" OffloadingSpec.decode

/-- Reads a mark of an offloaded namespace. -/
def decode : Decoder NamespaceOffloading := fields.decode "NamespaceOffloading"

instance : Resource NamespaceOffloading where
  kind := .namespaceOffloading
  metadata := NamespaceOffloading.metadata
  encode := encode
  decode := decode

end NamespaceOffloading

end PeerFirewall
