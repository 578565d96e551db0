import PeerFirewall.Keyed
import PeerFirewall.Resource.Policy

/-!
# The policies that are known

The controller knows the policies from a watch: a list of all of them, then one event for each
change. A new list, which may come at any time, is collected apart and replaces what is known when
it is complete.
-/
namespace PeerFirewall

/-- Policies by their identity. -/
abbrev PolicyTable := Keyed ObjectName Policy

/-- An event of the watch on policies. -/
inductive PolicyEvent where
  | applied (policy : Policy)
  | deleted (policy : Policy)
  /-- A new list begins. -/
  | listBegins
  /-- A policy of the new list. -/
  | listed (policy : Policy)
  /-- The new list is complete. -/
  | listEnds
deriving DecidableEq, Repr

/-- What is known, and the part of a new list that has arrived. -/
structure KnownPolicies where
  known : PolicyTable
  arriving : PolicyTable
deriving DecidableEq, Repr

namespace PolicyTable

/-- The identities of the policies in a namespace. -/
def namesIn (table : PolicyTable) («namespace» : String) : List ObjectName :=
  table.keys.filter (·.namespace = some «namespace»)

end PolicyTable

namespace KnownPolicies

/-- Nothing known. -/
def none : KnownPolicies := ⟨.empty, .empty⟩

/-- What is known after an event. -/
def step (policies : KnownPolicies) : PolicyEvent → Except NamelessObject KnownPolicies
  | .applied policy => do
    let object ← policy.metadata.objectName
    return { policies with known := policies.known.insert object policy }
  | .deleted policy => do
    let object ← policy.metadata.objectName
    return { policies with known := policies.known.erase object }
  | .listBegins => .ok { policies with arriving := .empty }
  | .listed policy => do
    let object ← policy.metadata.objectName
    return { policies with arriving := policies.arriving.insert object policy }
  | .listEnds => .ok ⟨policies.arriving, .empty⟩

/-- What is known after events. -/
def steps (policies : KnownPolicies) : List PolicyEvent → Except NamelessObject KnownPolicies
  | [] => .ok policies
  | event :: rest => do (← policies.step event).steps rest

end KnownPolicies

end PeerFirewall
