import PeerFirewall.Json.Choice
import PeerFirewall.Resource.Group
import PeerFirewall.Resource.Kind

/-!
# Peering policies

A policy lives in the tenant namespace of a peer and lists rules in order. A rule allows or denies
the traffic between its source and its destination; a side that is left out is any address. The
status reports how the last pass over the policy ended.
-/
namespace PeerFirewall

/-- What a rule does with the traffic it matches. -/
inductive RuleAction where
  | allow
  | deny
deriving DecidableEq, Repr

/-- One side of a rule. It is sound if exactly one field is set. -/
structure Party where
  group : Option Group
  «namespace» : Option String
deriving DecidableEq, Repr

/-- One rule of a policy. -/
structure Rule where
  action : RuleAction
  source : Option Party
  destination : Option Party
deriving DecidableEq, Repr

/-- The content of a policy. -/
structure PolicySpec where
  rules : List Rule
deriving DecidableEq, Repr

/-- Whether a condition holds. -/
inductive ConditionStatus where
  | true
  | false
  | unknown
deriving DecidableEq, Repr

/-- One observation about a policy. -/
structure Condition where
  type : String
  status : ConditionStatus
  observedGeneration : Option Int64
  lastTransitionTime : Option String
  reason : Option String
  message : Option String
deriving DecidableEq, Repr

/-- The status of a policy. -/
structure PolicyStatus where
  observedGeneration : Option Int64
  conditions : List Condition
deriving DecidableEq, Repr

/-- A policy. -/
structure Policy where
  metadata : Metadata
  spec : PolicySpec
  status : Option PolicyStatus
deriving DecidableEq, Repr

instance : Choice RuleAction where
  all := [.allow, .deny]
  name
    | .allow => "allow"
    | .deny => "deny"
  choose_name value := by cases value <;> rfl

namespace Party

/-- The party of a group. -/
def ofGroup (group : Group) : Party := ⟨some group, none⟩

/-- The party of a namespace. -/
def ofNamespace (name : String) : Party := ⟨none, some name⟩

/-- A party as an object. -/
def encode (party : Party) : Json :=
  .record [("group", party.group.map Group.encode), ("namespace", party.namespace.map .str)]

/-- The fields of a party. -/
def fields : Record Party :=
  Party.mk
  <$> Record.optionalField "group" Group.decode
  <*> Record.optionalField "namespace" Decoder.string

/-- Reads a party. -/
def decode : Decoder Party := fields.decode "Party"

end Party

namespace Rule

/-- The two sides of a rule that are set, the source first. -/
def parties (rule : Rule) : List Party := rule.source.toList ++ rule.destination.toList

/-- A rule as an object. -/
def encode (rule : Rule) : Json :=
  .record [
    ("action", some (Choice.encode rule.action)),
    ("source", rule.source.map Party.encode),
    ("destination", rule.destination.map Party.encode)]

/-- The fields of a rule. -/
def fields : Record Rule :=
  Rule.mk
  <$> Record.fieldWithDefault "action" Choice.decode .allow
  <*> Record.optionalField "source" Party.decode
  <*> Record.optionalField "destination" Party.decode

/-- Reads a rule. -/
def decode : Decoder Rule := fields.decode "Rule"

end Rule

namespace PolicySpec

/-- The content of a policy as an object. -/
def encode (spec : PolicySpec) : Json :=
  .record [("rules", some (Json.list Rule.encode spec.rules))]

/-- The fields of the content of a policy. -/
def fields : Record PolicySpec :=
  PolicySpec.mk <$> Record.fieldWithDefault "rules" (Decoder.list Rule.decode) []

/-- Reads the content of a policy. -/
def decode : Decoder PolicySpec := fields.decode "PeeringConnectivitySpec"

end PolicySpec

instance : Choice ConditionStatus where
  all := [.true, .false, .unknown]
  name
    | .true => "True"
    | .false => "False"
    | .unknown => "Unknown"
  choose_name value := by cases value <;> rfl

namespace Condition

/-- A condition as an object. -/
def encode (condition : Condition) : Json :=
  .record [
    ("type", some (.str condition.type)),
    ("status", some (Choice.encode condition.status)),
    ("observedGeneration", condition.observedGeneration.map fun n => .int n.toInt),
    ("lastTransitionTime", condition.lastTransitionTime.map .str),
    ("reason", condition.reason.map .str),
    ("message", condition.message.map .str)]

/-- The fields of a condition. -/
def fields : Record Condition :=
  Condition.mk
  <$> Record.field "type" Decoder.string
  <*> Record.field "status" Choice.decode
  <*> Record.optionalField "observedGeneration" Decoder.int64
  <*> Record.optionalField "lastTransitionTime" Decoder.string
  <*> Record.optionalField "reason" Decoder.string
  <*> Record.optionalField "message" Decoder.string

/-- Reads a condition. -/
def decode : Decoder Condition := fields.decode "Condition"

end Condition

namespace PolicyStatus

/-- The status of a policy as an object. -/
def encode (status : PolicyStatus) : Json :=
  .record [
    ("observedGeneration", status.observedGeneration.map fun n => .int n.toInt),
    ("conditions", some (Json.list Condition.encode status.conditions))]

/-- The fields of the status of a policy. -/
def fields : Record PolicyStatus :=
  PolicyStatus.mk
  <$> Record.optionalField "observedGeneration" Decoder.int64
  <*> Record.fieldWithDefault "conditions" (Decoder.list Condition.decode) []

/-- Reads the status of a policy. -/
def decode : Decoder PolicyStatus := fields.decode "PeeringConnectivityStatus"

end PolicyStatus

namespace Policy

/-- A policy as an object. -/
def encode (policy : Policy) : Json :=
  .record (Resource.typeMembers .policy ++ [
    ("metadata", some policy.metadata.encode),
    ("spec", some policy.spec.encode),
    ("status", policy.status.map PolicyStatus.encode)])

/-- The fields of a policy. -/
def fields : Record Policy :=
  Policy.mk
  <$> Record.field "metadata" Metadata.decode
  <*> Record.field "spec" PolicySpec.decode
  <*> Record.optionalField "status" PolicyStatus.decode

/-- Reads a policy. -/
def decode : Decoder Policy := fields.decode "PeeringConnectivity"

instance : Resource Policy where
  kind := .policy
  metadata := Policy.metadata
  encode := encode
  decode := decode

end Policy

end PeerFirewall
