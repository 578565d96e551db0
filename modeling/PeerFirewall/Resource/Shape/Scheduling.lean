import PeerFirewall.Resource.Metadata

/-!
# The shapes of scheduling rules

Where a pod may run: near or far from nodes and other pods, spread over them, and on nodes that
others avoid.
-/
namespace PeerFirewall.Shape

/-- A condition on a label or a field. -/
def requirement (name : String) : Shape :=
  object name [("key", text), ("operator", text), ("values", texts)]

/-- Which objects are meant, by their labels. -/
def labelSelector : Shape :=
  object "LabelSelector" [
    ("matchExpressions", list (requirement "LabelSelectorRequirement")),
    ("matchLabels", map text)]

/-- Which nodes are meant. -/
def nodeSelectorTerm : Shape :=
  object "NodeSelectorTerm" [
    ("matchExpressions", list (requirement "NodeSelectorRequirement")),
    ("matchFields", list (requirement "NodeSelectorRequirement"))]

/-- Rules about nodes. -/
def nodeAffinity : Shape :=
  object "NodeAffinity" [
    ("preferredDuringSchedulingIgnoredDuringExecution",
      list (object "PreferredSchedulingTerm" [
        ("preference", nodeSelectorTerm), ("weight", int32)])),
    ("requiredDuringSchedulingIgnoredDuringExecution",
      object "NodeSelector" [("nodeSelectorTerms", list nodeSelectorTerm)])]

/-- Which pods are meant. -/
def podAffinityTerm : Shape :=
  object "PodAffinityTerm" [
    ("labelSelector", labelSelector),
    ("matchLabelKeys", texts),
    ("mismatchLabelKeys", texts),
    ("namespaceSelector", labelSelector),
    ("namespaces", texts),
    ("topologyKey", text)]

/-- Rules about other pods. -/
def podAffinity (name : String) : Shape :=
  object name [
    ("preferredDuringSchedulingIgnoredDuringExecution",
      list (object "WeightedPodAffinityTerm" [
        ("podAffinityTerm", podAffinityTerm), ("weight", int32)])),
    ("requiredDuringSchedulingIgnoredDuringExecution", list podAffinityTerm)]

/-- Rules about nodes and other pods. -/
def affinity : Shape :=
  object "Affinity" [
    ("nodeAffinity", nodeAffinity),
    ("podAffinity", podAffinity "PodAffinity"),
    ("podAntiAffinity", podAffinity "PodAntiAffinity")]

/-- A mark of nodes that the pod puts up with. -/
def toleration : Shape :=
  object "Toleration" [
    ("effect", text),
    ("key", text),
    ("operator", text),
    ("tolerationSeconds", int64),
    ("value", text)]

/-- How pods are spread. -/
def topologySpreadConstraint : Shape :=
  object "TopologySpreadConstraint" [
    ("labelSelector", labelSelector),
    ("matchLabelKeys", texts),
    ("maxSkew", int32),
    ("minDomains", int32),
    ("nodeAffinityPolicy", text),
    ("nodeTaintsPolicy", text),
    ("topologyKey", text),
    ("whenUnsatisfiable", text)]

end PeerFirewall.Shape
