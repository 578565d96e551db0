import PeerFirewall.Compile.Strategy
import PeerFirewall.Fabric.Tenant
import PeerFirewall.Reconcile.Upsert

/-!
# How a pass ends

A pass ends with an action, which says when the policy is looked at again, or with an error. An
error says which step failed: fetching the policy, the finalizer, or what the finalizer guards.
-/
namespace PeerFirewall

/-- When a policy is looked at again. -/
inductive Action where
  /-- When something changes. -/
  | awaitChange
  /-- After that many seconds, if nothing changes before. -/
  | requeue (seconds : Nat)
deriving DecidableEq, Repr

/-- Why the firewall configuration of a policy could not be brought up to date or removed. -/
inductive SyncError where
  | api (error : ApiError)
  | clusterId (error : ClusterIdError)
  | compile (error : CompileError)
  | upsert (error : UpsertError)
deriving DecidableEq, Repr

/-- Why a fetched policy could not be dealt with. -/
inductive FinalizerError where
  | applyFailed (error : SyncError)
  | cleanupFailed (error : SyncError)
  | addFailed (error : ApiError)
  | removeFailed (error : ApiError)
  | unnamedObject
deriving DecidableEq, Repr

/-- Why a pass failed. -/
inductive PassError where
  /-- The policy could not be fetched. -/
  | api (error : ApiError)
  | missingNamespace (name : String)
  | finalizer (error : FinalizerError)
deriving DecidableEq, Repr

namespace SyncError

/-- The text of the error. -/
def message : SyncError → String
  | api error => error.message
  | clusterId error => error.message
  | compile error => error.message
  | upsert error => error.message

end SyncError

namespace FinalizerError

/-- The text of the error. -/
def message : FinalizerError → String
  | applyFailed error => "failed to apply object: " ++ error.message
  | cleanupFailed error => "failed to clean up object: " ++ error.message
  | addFailed error => "failed to add finalizer: " ++ error.message
  | removeFailed error => "failed to remove finalizer: " ++ error.message
  | unnamedObject => "object has no name"

end FinalizerError

namespace PassError

/-- The text of the error. -/
def message : PassError → String
  | api error => error.message
  | missingNamespace name => "policy " ++ name ++ " has no namespace"
  | finalizer error => "finalizer error: " ++ error.message

end PassError

end PeerFirewall
