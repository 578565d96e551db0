import PeerFirewall.Api.Client
import PeerFirewall.Leadership.Claim
import PeerFirewall.Resource.Lease

/-!
# Claiming the lease

The right to write is a lease object that the deployment of the controller owns. An instance that
starts creates the lease if there is none and claims it unless another claim is current. A claim is
written on top of the version that was read, so of two instances that claim at once one is told to
look again. An instance that stops gives its claim back.
-/
namespace PeerFirewall

open Time (Instant)

/-- Why the lease could not be claimed. -/
inductive LeaseError where
  | api (error : ApiError)
  | missingSpec
  | missingResourceVersion
deriving DecidableEq, Repr

/-- Why an instance does not know whether it may write. -/
inductive LeadershipError where
  | api (error : ApiError)
  /-- The deployment cannot own the lease. -/
  | noOwner («namespace» deployment : String)
  | lease (error : LeaseError)
deriving DecidableEq, Repr

namespace LeaseError

/-- The text of the error. -/
def message : LeaseError → String
  | api error => "failed to get lease: " ++ error.message
  | missingSpec => "lease does not have a spec"
  | missingResourceVersion => "lease does not have a resource version"

end LeaseError

namespace LeadershipError

/-- The text of the error. -/
def message : LeadershipError → String
  | api error => error.message
  | noOwner «namespace» deployment =>
    "Deployment " ++ «namespace» ++ "/" ++ deployment ++ " has no UID"
  | lease error => error.message

end LeadershipError

/-- What is known about the lease. -/
structure LeaseState where
  /-- The version that the next write replaces. -/
  version : String
  /-- How often the lease has changed hands. -/
  transitions : Nat
  claim : Option Claim
deriving DecidableEq, Repr

namespace LeaseSpec

/-- How often the lease has changed hands; a count that makes no sense is none. -/
def transitions (spec : LeaseSpec) : Nat :=
  match spec.leaseTransitions with
  | some n => if 0 ≤ n.toInt ∧ n.toInt ≤ 65535 then n.toInt.toNat else 0
  | none => 0

/-- The claim that the lease names, if it says who, since when and for how long. -/
def claim (spec : LeaseSpec) : Option Claim := do
  let holder ← spec.holderIdentity
  let renewed ← spec.renewTime
  let duration ← spec.leaseDurationSeconds
  return ⟨holder, renewed.plus duration.toInt⟩

end LeaseSpec

namespace Lease

/-- The name of the lease. -/
def writeLease : String := controllerName ++ "-write"

/-- How the lease is written when it is claimed or given back. -/
def claimWriter : List (String × String) := ApiCall.writtenBy "kubert"

/-- How long a claim lasts, in seconds. -/
def duration : Nat := 30

/-- The version of a lease. -/
def version (lease : Lease) : Except LeaseError String :=
  match lease.metadata.resourceVersion with
  | some version => .ok version
  | none => .error .missingResourceVersion

/-- What a lease says. -/
def state (lease : Lease) : Except LeaseError LeaseState :=
  match lease.spec with
  | none => .error .missingSpec
  | some spec => lease.version.map fun version => ⟨version, spec.transitions, spec.claim⟩

/-- The lease as it is created: owned by the deployment, and only if there is none. -/
def initial («namespace» : String) (owner : OwnerReference) : Lease where
  metadata :=
    { Metadata.empty with
      name := some writeLease
      «namespace» := some «namespace»
      labels := some (.ofList [("app.kubernetes.io/name", controllerName)])
      ownerReferences := some [owner]
      resourceVersion := some "0" }
  spec := none

/-- Part of a lease on top of a version of it. -/
def part (version : String) (spec : List (String × Json)) : Json :=
  .record (Resource.typeMembers .lease ++ [
    ("metadata", some (.obj [("resourceVersion", .str version)])),
    ("spec", some (.obj spec))])

/-- The part of a lease that claims it. -/
def claimPart (state : LeaseState) (claimant : String) (now : Instant) : Json :=
  part state.version [
    ("acquireTime", .str now.microText),
    ("renewTime", .str now.microText),
    ("holderIdentity", .str claimant),
    ("leaseDurationSeconds", .int duration),
    ("leaseTransitions", .int (state.transitions + 1))]

/-- The part of a lease that gives a claim back. -/
def releasePart (state : LeaseState) : Json :=
  part state.version [
    ("acquireTime", .null),
    ("renewTime", .null),
    ("holderIdentity", .null),
    ("leaseDurationSeconds", .null)]

/-- Sends a patch of the lease. -/
def send («namespace» : String) (format : PatchFormat) (query : List (String × String))
    (body : Json) : ApiCall Lease :=
  ApiCall.patch (some «namespace») writeLease format query body

end Lease

/-- A step of claiming the lease. -/
abbrev LeaseCall (α : Type) := ExceptT LeaseError (Program world) α

namespace LeaseState

/-- The state that a reply tells of. -/
def ofReply : Except ApiError Lease → Except LeaseError LeaseState
  | .ok lease => lease.state
  | .error error => .error (.api error)

/-- Reads the state of the lease. -/
def fetch («namespace» : String) : LeaseCall LeaseState :=
  ExceptT.mk (ofReply <$> (ApiCall.get (some «namespace») Lease.writeLease).run)

/-- The state after a claim was written, or why it was not; `none` if it came too late. -/
def claimed (state : LeaseState) (claimant : String) (now : Instant) :
    Except ApiError Lease → Except LeaseError (Option LeaseState)
  | .ok lease =>
    lease.version.map fun version =>
      some ⟨version, state.transitions + 1, some ⟨claimant, now.plus Lease.duration⟩⟩
  | .error error => if error.isConflict then .ok none else .error (.api error)

/-- Claims the lease unless a claim is current. A claim that came too late is made again on top of
what the lease is then, that many times at most. -/
def claimWithin («namespace» claimant : String) :
    Nat → LeaseState → LeaseCall LeaseState
  | 0, state => pure state
  | attempts + 1, state => do
    let now ← readClock
    if state.claim.any (·.isCurrent now) then return state
    let query := Lease.claimWriter ++ [("force", "true")]
    let outcome ← ExceptT.mk (state.claimed claimant now <$>
      (Lease.send «namespace» .apply query (Lease.claimPart state claimant now)).run)
    match outcome with
    | some state => return state
    | none => claimWithin «namespace» claimant attempts (← fetch «namespace»)

/-- What a claimant knows of the right to write; an unclaimed lease gives it to nobody. -/
def leadership (state : LeaseState) (hostname : String) : Leadership :=
  ⟨state.claim.getD ⟨"", ⟨0, 0⟩⟩, hostname⟩

/-- Gives the claim back if it is that of the claimant; whether that succeeds does not matter. -/
def release (state : LeaseState) («namespace» claimant : String) : Program world Unit := do
  let now ← readClock
  if state.claim.any (·.isCurrentFor claimant now) then
    let _ ← (Lease.send «namespace» .strategicMerge Lease.claimWriter (Lease.releasePart state)).run

/-- How often a claim that comes too late is made again. There is no bound in practice. -/
def maxAttempts : Nat := 18446744073709551616

end LeaseState

namespace Leadership

/-- What an attempt to create the lease means: that the API server refused is no reason to stop,
for the lease may exist. -/
def creationEnd : Except ApiError Lease → Except LeadershipError Unit
  | .ok _ | .error (.refused _) => .ok ()
  | .error error => .error (.api error)

/-- The owner of the lease: the deployment of the controller. -/
def leaseOwner («namespace» deployment : String) :
    Except ApiError Deployment → Except LeadershipError OwnerReference
  | .error error => .error (.api error)
  | .ok found =>
    match Resource.controllerReference? .deployment found.metadata with
    | some owner => .ok owner
    | none => .error (.noOwner «namespace» deployment)

/-- Creates the lease if there is none, and claims it unless a claim is current. -/
def acquire («namespace» deployment hostname : String) :
    ExceptT LeadershipError (Program world) LeaseState := do
  let owner ← ExceptT.mk (leaseOwner «namespace» deployment <$>
    (ApiCall.get (some «namespace») deployment).run)
  let query := ApiCall.writtenBy controllerName
  ExceptT.mk (creationEnd <$>
    (Lease.send «namespace» .apply query (Lease.initial «namespace» owner).encode).run)
  ExceptT.mk (Except.mapError LeadershipError.lease <$> ExceptT.run do
    LeaseState.claimWithin «namespace» hostname LeaseState.maxAttempts
      (← LeaseState.fetch «namespace»))

end Leadership

end PeerFirewall
