import PeerFirewall.Resource.Shape.Pod

/-!
# The shapes of deployments

The content and the status of a deployment.
-/
namespace PeerFirewall.Shape

/-- What the pods of a deployment are made from. -/
def podTemplate : Shape :=
  object "PodTemplateSpec" [
    ("metadata", of Metadata.decode), ("spec", object "PodSpec" podSpecFields)]

/-- The content of a deployment. -/
def deploymentSpec : Shape :=
  object "DeploymentSpec" [
    ("minReadySeconds", int32),
    ("paused", flag),
    ("progressDeadlineSeconds", int32),
    ("replicas", int32),
    ("revisionHistoryLimit", int32),
    ("selector", labelSelector),
    ("strategy", object "DeploymentStrategy" [
      ("rollingUpdate", object "RollingUpdateDeployment" [
        ("maxSurge", numberOrText), ("maxUnavailable", numberOrText)]),
      ("type", text)]),
    ("template", podTemplate)]

/-- The status of a deployment. -/
def deploymentStatus : Shape :=
  object "DeploymentStatus" [
    ("availableReplicas", int32),
    ("collisionCount", int32),
    ("conditions", list (object "DeploymentCondition" [
      ("lastTransitionTime", time),
      ("lastUpdateTime", time),
      ("message", text),
      ("reason", text),
      ("status", text),
      ("type", text)])),
    ("observedGeneration", int64),
    ("readyReplicas", int32),
    ("replicas", int32),
    ("terminatingReplicas", int32),
    ("unavailableReplicas", int32),
    ("updatedReplicas", int32)]

end PeerFirewall.Shape
