import PeerFirewall.Text.Quoted

/-!
# Tenant namespaces

Everything that concerns a peer lives in the tenant namespace of the peer: a fixed stem, a hyphen
and the identifier of the peer's cluster, which is not empty.
-/
namespace PeerFirewall

/-- The convention that names tenant namespaces. -/
structure Tenants where
  stem : String
deriving DecidableEq, Repr

/-- A namespace that is no tenant namespace. -/
structure ClusterIdError where
  «namespace» : String
  /-- What a tenant namespace begins with. -/
  expected : String
deriving DecidableEq, Repr

namespace ClusterIdError

/-- The text of the error. -/
def message (error : ClusterIdError) : String :=
  "namespace " ++ Text.quoted error.namespace ++ " does not have the expected prefix " ++
    Text.quoted error.expected

end ClusterIdError

namespace Tenants

/-- The convention unless another stem is set. -/
def standard : Tenants := ⟨"liqo-tenant"⟩

/-- The tenant namespace of a cluster. -/
def namespaceOf (tenants : Tenants) (clusterId : String) : String :=
  tenants.stem ++ "-" ++ clusterId

/-- What follows a list of characters at the front of another. -/
def dropFront : (front text : List Char) → Option (List Char)
  | [], text => some text
  | _ :: _, [] => none
  | f :: front, c :: text => if f = c then dropFront front text else none

/-- The cluster whose tenant namespace this is. -/
def clusterId (tenants : Tenants) (name : String) : Except ClusterIdError String :=
  match dropFront (tenants.stem.toList ++ ['-']) name.toList with
  | some (c :: rest) => .ok (String.ofList (c :: rest))
  | _ => .error ⟨name, tenants.stem ++ "-"⟩

end Tenants

end PeerFirewall
