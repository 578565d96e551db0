import PeerFirewall.Compile.Compiler
import PeerFirewall.Leadership.Claim
import PeerFirewall.Readiness
import PeerFirewall.Reconcile.Backoff
import PeerFirewall.Reconcile.Finalizer
import PeerFirewall.Reconcile.Metrics
import PeerFirewall.Reconcile.PassError
import PeerFirewall.Reconcile.Recorder

/-!
# One pass over a policy

A pass of the instance that holds the lease reads the policy as it is now. A policy that is there
to stay is marked with a finalizer first; then its rules are compiled, the firewall configuration
is written, and the status of the policy says how that went. A policy that is being deleted is
released from the finalizer once its firewall configuration is deleted. A failure is reported on
the status and by an event, and the failed pass is made again later.
-/
namespace PeerFirewall

/-- What passes are made with. -/
structure Setting where
  resolvers : Resolvers
  info : ClusterInfo
  leadership : Leadership
  /-- The name under which events are reported. -/
  «instance» : String
  /-- After how many seconds a policy is compiled again though nothing has changed. -/
  resync : Nat
  /-- How the state of the cluster is read. -/
  lookUp : (query : Query) → Program world query.Answer

/-- What is kept from pass to pass. -/
structure Ledger where
  events : EventCache
  metrics : Metrics
  failures : Failures
deriving DecidableEq, Repr

/-- Nothing kept yet. -/
def Ledger.fresh : Ledger := ⟨.empty, .zero, .none⟩

/-- A part of a pass. -/
abbrev Pass (α : Type) := StateT Ledger (Program world) α

/-- The event that tells of a write. -/
def EventNote.synced (operation : WriteOperation) : EventNote where
  type := .normal
  reason := "Synced"
  action := "Sync"
  note := "FirewallConfiguration " ++ operation.name

/-- The event that tells of a failure. -/
def EventNote.failed (message : String) : EventNote where
  type := .warning
  reason := "ReconcileError"
  action := "Reconcile"
  note := message

/-- Writes on the status of a policy how a pass ended, unless it says so already. -/
def Policy.updateStatus (policy : Policy) («namespace» : String) (outcome : Outcome) :
    ApiCall Unit := do
  let now ← readClock
  let status := PolicyStatus.afterPass policy.status policy.metadata.generation outcome now
  if policy.status = some status then return ()
  let _ : Policy ←
    ApiCall.patchStatus (some «namespace») policy.metadata.displayName status.patch

namespace Setting

/-- Publishes an event on a policy. -/
def announce (setting : Setting) (policy : Policy) (content : EventNote) : Pass Unit :=
  fun ledger => do
    let ((), events) ← EventCache.publish setting.instance
      (.ofMetadata .policy policy.metadata) content ledger.events
    return ((), { ledger with events })

/-- Reports a failure on the status and by an event; that the status could not be written does not
matter here. -/
def reportFailure (setting : Setting) («namespace» : String) (policy : Policy)
    (outcome : Outcome) : Pass Unit := do
  let _ ← (policy.updateStatus «namespace» outcome).run
  setting.announce policy (.failed outcome.message)

/-- Compiles the rules of a policy. -/
def compile (setting : Setting) (clusterId : String) (policy : Policy) :
    Program world (Except CompileError FirewallSpec) :=
  (setting.resolvers.compile clusterId policy.spec.rules).run.answeredBy setting.lookUp

/-- Brings the firewall configuration for a policy up to date. -/
def sync (setting : Setting) («namespace» clusterId : String) (policy : Policy) :
    Program world (Except SyncError WriteOperation) := do
  match ← setting.compile clusterId policy with
  | .error error => return .error (.compile error)
  | .ok spec =>
    match policy.desiredFirewall clusterId spec with
    | .error error => return .error (.upsert error)
    | .ok desired => return (← (desired.upsert «namespace»).run).mapError .upsert

/-- Deals with a policy that is there to stay. -/
def apply (setting : Setting) («namespace» : String) (policy : Policy) :
    Pass (Except SyncError Action) := do
  match setting.info.tenants.clusterId «namespace» with
  | .error error =>
    setting.reportFailure «namespace» policy (.clusterIdExtractionFailed error.message)
    return .error (.clusterId error)
  | .ok clusterId =>
    match ← setting.sync «namespace» clusterId policy with
    | .error error =>
      setting.reportFailure «namespace» policy (.syncFailed error.message)
      return .error error
    | .ok operation =>
      modify fun ledger => { ledger with metrics := ledger.metrics.wrote operation }
      if operation.isChange then setting.announce policy (.synced operation)
      match ← (policy.updateStatus «namespace» .synced).run with
      | .error error => return .error (.api error)
      | .ok () => return .ok (.requeue setting.resync)

/-- Removes what was written for a policy that is being deleted; where the namespace names no peer,
nothing was. -/
def cleanup (setting : Setting) («namespace» : String) : Pass (Except SyncError Action) := do
  match setting.info.tenants.clusterId «namespace» with
  | .error _ => return .ok .awaitChange
  | .ok clusterId =>
    match ← (Firewall.remove «namespace» (ClusterInfo.firewallName clusterId)).run with
    | .error error => return .error (.api error)
    | .ok () => return .ok .awaitChange

/-- Sends a patch of the finalizers of a policy. -/
def patchFinalizers («namespace» name : String) (body : Json) :
    Program world (Except ApiError Policy) :=
  (ApiCall.patch (some «namespace») name .json [] body).run

/-- Deals with a policy as it was fetched. -/
def finalize (setting : Setting) («namespace» : String) (policy : Policy) :
    Pass (Except FinalizerError Action) := do
  match Finalizer.place? policy.metadata, policy.metadata.deletionTimestamp with
  | some _, none => return (← setting.apply «namespace» policy).mapError .applyFailed
  | some place, some _ =>
    match policy.metadata.name with
    | none => return .error .unnamedObject
    | some name =>
      match ← setting.cleanup «namespace» with
      | .error error => return .error (.cleanupFailed error)
      | .ok action =>
        match ← patchFinalizers «namespace» name (Finalizer.removed place) with
        | .error error => return .error (.removeFailed error)
        | .ok _ => return .ok action
  | none, none =>
    match policy.metadata.name with
    | none => return .error .unnamedObject
    | some name =>
      match ← patchFinalizers «namespace» name (Finalizer.added policy.metadata.finalizerList) with
      | .error error => return .error (.addFailed error)
      | .ok _ => return .ok .awaitChange
  | none, some _ => return .ok .awaitChange

/-- After how many seconds an instance that may not write looks again. -/
def leadershipRetry : Nat := 10

/-- One pass over a policy. Only its name and namespace matter: the policy itself is fetched. -/
def pass (setting : Setting) (policy : Policy) : Pass (Except PassError Action) := do
  let now ← readClock
  if setting.leadership.isCurrent now then
    match policy.metadata.namespace with
    | none => return .error (.missingNamespace policy.metadata.displayName)
    | some name =>
      let found : Except ApiError (Option Policy) ←
        (ApiCall.get? (some name) policy.metadata.displayName).run
      match found with
      | .error error => return .error (.api error)
      | .ok none => return .ok .awaitChange
      | .ok (some fetched) => return (← setting.finalize name fetched).mapError .finalizer
  else return .ok (.requeue leadershipRetry)

/-- Whether a pass succeeded. -/
def succeeded : Except PassError Action → Bool
  | .ok _ => true
  | .error _ => false

/-- One pass that is counted; a success ends the failures in a row. -/
def reconcile (setting : Setting) (policy : Policy) :
    Pass (Except NamelessObject (Except PassError Action)) := do
  let result ← setting.pass policy
  modify fun ledger => { ledger with metrics := ledger.metrics.reconciled (succeeded result) }
  match result with
  | .error error => return .ok (.error error)
  | .ok action =>
    match policy.metadata.objectName with
    | .error complaint => return .error complaint
    | .ok object =>
      modify fun ledger => { ledger with failures := ledger.failures.clear object }
      return .ok (.ok action)

end Setting

namespace Ledger

/-- Counts a failed pass over a policy and says when to make it again. -/
def retry (ledger : Ledger) (policy : Policy) : Except NamelessObject (Action × Ledger) :=
  match policy.metadata.objectName with
  | .error complaint => .error complaint
  | .ok object =>
    let failures := ledger.failures.record object
    .ok (.requeue (backoff (failures.count object)), { ledger with failures })

end Ledger

/-- How a pass ended, and when the policy is looked at again. -/
structure Turn where
  result : Except PassError Action
  next : Action

namespace Setting

/-- One pass, after which it is settled when the policy is looked at again. -/
def turn (setting : Setting) (policy : Policy) : Pass (Except NamelessObject Turn) := do
  match ← setting.reconcile policy with
  | .error complaint => return .error complaint
  | .ok (.ok action) => return .ok ⟨.ok action, action⟩
  | .ok (.error error) =>
    match (← get).retry policy with
    | .error complaint => return .error complaint
    | .ok (next, ledger) =>
      set ledger
      return .ok ⟨.error error, next⟩

end Setting

end PeerFirewall
