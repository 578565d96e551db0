import PeerFirewall.Api.Client
import PeerFirewall.Reconcile.Desired

/-!
# Writing firewall configurations

The desired configuration is created where there is none, and laid over the stored one otherwise.
A write that comes too late, because another client has written since, is made again after another
read, up to five times.
-/
namespace PeerFirewall

/-- What became of the stored configuration. -/
inductive WriteOperation where
  | created
  | updated
  | unchanged
deriving DecidableEq, Repr

/-- Why the desired configuration was not written. -/
inductive UpsertError where
  | api (error : ApiError)
  /-- Every attempt came too late. -/
  | conflict (name : String) (attempts : Nat)
  /-- The policy has no identity by which it could own a configuration. -/
  | missingUid (policy : String)
deriving DecidableEq, Repr

namespace WriteOperation

/-- The name of an operation. -/
def name : WriteOperation → String
  | created => "created"
  | updated => "updated"
  | unchanged => "unchanged"

/-- Whether something was written. -/
def isChange : WriteOperation → Bool
  | created | updated => true
  | unchanged => false

end WriteOperation

namespace UpsertError

/-- The text of the error. -/
def message : UpsertError → String
  | api error => error.message
  | conflict name attempts =>
    "FirewallConfiguration " ++ name ++ " still conflicted after " ++ toString attempts ++
      " attempts"
  | missingUid policy => "policy " ++ policy ++ " has no UID"

end UpsertError

namespace Policy

/-- The firewall configuration that the policy should own, or why it cannot own one. -/
def desiredFirewall (policy : Policy) (clusterId : String) (spec : FirewallSpec) :
    Except UpsertError Firewall :=
  match policy.desiredFirewall? clusterId spec with
  | some desired => .ok desired
  | none => .error (.missingUid policy.metadata.displayName)

end Policy

namespace Firewall

/-- How one attempt to write ended; `none` if it came too late. -/
def attemptEnd (operation : WriteOperation) :
    Except ApiError Firewall → Except UpsertError (Option WriteOperation)
  | .ok _ => .ok (some operation)
  | .error error => if error.isConflict then .ok none else .error (.api error)

/-- One attempt: a read, then a write if one is needed. -/
def attempt («namespace» name : String) (desired : Firewall) :
    ExceptT UpsertError (Program world) (Option WriteOperation) := ExceptT.mk do
  let found : Except ApiError (Option Firewall) ← (ApiCall.get? (some «namespace») name).run
  match found with
  | .error error => return .error (.api error)
  | .ok none =>
    attemptEnd .created <$>
      (ApiCall.create (some «namespace») (ApiCall.writtenBy controllerName) desired).run
  | .ok (some current) =>
    match current.merge desired with
    | none => return .ok (some .unchanged)
    | some updated =>
      attemptEnd .updated <$>
        (ApiCall.replace (some «namespace») name (ApiCall.writtenBy controllerName) updated).run

/-- How many attempts are made before a conflict is given up on. -/
def maxAttempts : Nat := 5

/-- Makes attempts until one does not come too late, that many at most. -/
def upsertWithin («namespace» name : String) (desired : Firewall) :
    Nat → ExceptT UpsertError (Program world) WriteOperation
  | 0 => throw (.conflict name maxAttempts)
  | attempts + 1 => do
    match ← attempt «namespace» name desired with
    | some operation => return operation
    | none => upsertWithin «namespace» name desired attempts

/-- Creates the desired configuration or lays it over the stored one. -/
def upsert («namespace» : String) (desired : Firewall) :
    ExceptT UpsertError (Program world) WriteOperation :=
  upsertWithin «namespace» desired.metadata.displayName desired maxAttempts

/-- What a deletion comes to; an object that does not exist is as good as deleted. -/
def deletionEnd : Except ApiError (ApiCall.Deletion Firewall) → Except ApiError Unit
  | .ok _ => .ok ()
  | .error error => if error.isNotFound then .ok () else .error error

/-- Deletes the configuration of that name, if there is one. -/
def remove («namespace» name : String) : ApiCall Unit :=
  ExceptT.mk (deletionEnd <$> (ApiCall.delete Firewall (some «namespace») name).run)

end Firewall

end PeerFirewall
