import PeerFirewall.Resource.Policy

/-!
# The ready condition

The status of a policy has a condition of type `Ready` that says how the last pass ended and since
when it has been ending like that: the transition time moves only when the condition's status
flips. Conditions of other types stay as they are.
-/
namespace PeerFirewall

open Time (Instant)

/-- Why the ready condition is as it is. -/
inductive ReadyReason where
  | fabricSynced
  | clusterIdExtractionFailed
  | fabricSyncFailed
deriving DecidableEq, Repr

/-- The name of a reason. -/
def ReadyReason.name : ReadyReason → String
  | fabricSynced => "FabricSynced"
  | clusterIdExtractionFailed => "ClusterIDExtractionFailed"
  | fabricSyncFailed => "FabricSyncFailed"

/-- How a pass over a policy ended. -/
structure Outcome where
  reason : ReadyReason
  message : String
deriving DecidableEq, Repr

namespace Outcome

/-- The firewall configuration is as it should be. -/
def synced : Outcome := ⟨.fabricSynced, "FirewallConfiguration synced"⟩

/-- The namespace names no peer. -/
def clusterIdExtractionFailed (error : String) : Outcome :=
  ⟨.clusterIdExtractionFailed, "Unable to extract cluster ID: " ++ error⟩

/-- The firewall configuration could not be compiled or written. -/
def syncFailed (error : String) : Outcome :=
  ⟨.fabricSyncFailed, "Failed to sync FirewallConfiguration: " ++ error⟩

/-- Whether the policy is in force. -/
def isReady (outcome : Outcome) : Bool := outcome.reason = .fabricSynced

/-- The status of the ready condition. -/
def conditionStatus (outcome : Outcome) : ConditionStatus :=
  if outcome.isReady then .true else .false

end Outcome

/-- The type of the ready condition. -/
def readyType : String := "Ready"

namespace PolicyStatus

/-- Puts a condition in place of the first one of its type, or after all others. -/
def setCondition (condition : Condition) : List Condition → List Condition
  | [] => [condition]
  | other :: rest =>
    if other.type = condition.type then condition :: rest
    else other :: setCondition condition rest

/-- Since when the ready condition has had a status, if it has that status now. -/
def transitionTime? (status : ConditionStatus) (conditions : List Condition) : Option String :=
  (conditions.find? fun c => c.type = readyType ∧ c.status = status).bind (·.lastTransitionTime)

/-- The status after a pass over that generation of the policy that ended at that time. -/
def afterPass (current : Option PolicyStatus) (generation : Option Int64) (outcome : Outcome)
    (now : Instant) : PolicyStatus :=
  let conditions := (current.map (·.conditions)).getD []
  let ready : Condition := {
    type := readyType
    status := outcome.conditionStatus
    observedGeneration := generation
    lastTransitionTime :=
      some ((transitionTime? outcome.conditionStatus conditions).getD now.text)
    reason := some outcome.reason.name
    message := some outcome.message }
  ⟨generation, setCondition ready conditions⟩

/-- The merge patch that writes a status. -/
def patch (status : PolicyStatus) : Json := .obj [("status", status.encode)]

end PolicyStatus

end PeerFirewall
