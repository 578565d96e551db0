import PeerFirewall.Resource.Policy

/-!
# How the policy kind is declared

The declaration by which the API server learns of the policy kind: its names, and what the schema
admits for the fields that are choices.
-/
namespace PeerFirewall

/-- The declaration of a kind of objects. -/
structure KindDefinition where
  kind : Kind
  singular : String
  shortNames : List String
  categories : List String
  /-- Whether the objects live in namespaces. -/
  namespaced : Bool
  /-- Whether the status is written apart from the content. -/
  statusApart : Bool
deriving DecidableEq, Repr

namespace KindDefinition

/-- The name of the declaration. -/
def name (definition : KindDefinition) : String :=
  definition.kind.plural ++ "." ++ definition.kind.group

/-- Where the objects live. -/
def scope (definition : KindDefinition) : String :=
  if definition.namespaced then "Namespaced" else "Cluster"

end KindDefinition

namespace Policy

/-- The declaration of the policy kind. -/
def definition : KindDefinition where
  kind := .policy
  singular := "peeringconnectivity"
  shortNames := ["pc"]
  categories := []
  namespaced := true
  statusApart := true

/-- What the schema admits as the group of a party, on either side of a rule. -/
def admittedGroups : List String := Group.schemaNames

/-- What the schema admits as the action of a rule. -/
def admittedActions : List String := Choice.names RuleAction

end Policy

end PeerFirewall
