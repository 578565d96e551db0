import PeerFirewall.Resource.Kind
import PeerFirewall.Resource.Shape.Deployment

/-!
# Leases and deployments

A lease names the instance that may write and until when. The deployment of the controller owns
the lease; only its metadata matters, but all of it is checked.
-/
namespace PeerFirewall

open Time (Instant)

/-- The content of a lease. -/
structure LeaseSpec where
  holderIdentity : Option String
  leaseDurationSeconds : Option Int32
  leaseTransitions : Option Int32
  renewTime : Option Instant
deriving DecidableEq, Repr

/-- A lease. -/
structure Lease where
  metadata : Metadata
  spec : Option LeaseSpec
deriving DecidableEq, Repr

/-- A deployment. -/
structure Deployment where
  metadata : Metadata
deriving DecidableEq, Repr

namespace LeaseSpec

/-- The content of a lease as an object. -/
def encode (spec : LeaseSpec) : Json :=
  .record [
    ("holderIdentity", spec.holderIdentity.map .str),
    ("leaseDurationSeconds", spec.leaseDurationSeconds.map fun n => .int n.toInt),
    ("leaseTransitions", spec.leaseTransitions.map fun n => .int n.toInt),
    ("renewTime", spec.renewTime.map fun t => .str t.microText)]

/-- The fields of the content of a lease that are kept. -/
def fields : Record LeaseSpec :=
  LeaseSpec.mk
  <$> Record.optionalField "holderIdentity" Decoder.string
  <*> Record.optionalField "leaseDurationSeconds" Decoder.int32
  <*> Record.optionalField "leaseTransitions" Decoder.int32
  <*> Record.optionalField "renewTime" Decoder.instant

/-- Reads the content of a lease. -/
def decode : Decoder LeaseSpec :=
  fields.decodeBuiltIn "LeaseSpec" [
    ("acquireTime", .time),
    ("preferredHolder", .text),
    ("strategy", .text)]

end LeaseSpec

namespace Lease

/-- A lease as an object. -/
def encode (lease : Lease) : Json :=
  .record (Resource.typeMembers .lease ++ [
    ("metadata", some lease.metadata.encode),
    ("spec", lease.spec.map LeaseSpec.encode)])

/-- The fields of a lease. -/
def fields : Record Lease :=
  (fun () => Lease.mk)
  <$> Resource.typeFields .lease
  <*> Record.lenientField "metadata" Metadata.decode .empty
  <*> Record.optionalField "spec" LeaseSpec.decode

/-- Reads a lease. -/
def decode : Decoder Lease := fields.decodeBuiltIn "Lease" []

instance : Resource Lease where
  kind := .lease
  metadata := Lease.metadata
  encode := encode
  decode := decode

end Lease

namespace Deployment

/-- A deployment as an object. -/
def encode (deployment : Deployment) : Json :=
  .record (Resource.typeMembers .deployment ++ [("metadata", some deployment.metadata.encode)])

/-- The fields of a deployment. -/
def fields : Record Deployment :=
  (fun () => Deployment.mk)
  <$> Resource.typeFields .deployment
  <*> Record.lenientField "metadata" Metadata.decode .empty

/-- Reads a deployment. -/
def decode : Decoder Deployment :=
  fields.decodeBuiltIn "Deployment" [
    ("spec", Shape.deploymentSpec),
    ("status", Shape.deploymentStatus)]

instance : Resource Deployment where
  kind := .deployment
  metadata := Deployment.metadata
  encode := encode
  decode := decode

end Deployment

end PeerFirewall
