import PeerFirewall.Resource.Shape.Volume

/-!
# The shapes of pods

The content and the status of a pod.
-/
namespace PeerFirewall.Shape

/-- The rights of all containers of a pod. -/
def podSecurityContext : Shape :=
  object "PodSecurityContext" [
    ("appArmorProfile", securityProfile "AppArmorProfile"),
    ("fsGroup", int64),
    ("fsGroupChangePolicy", text),
    ("runAsGroup", int64),
    ("runAsNonRoot", flag),
    ("runAsUser", int64),
    ("seLinuxChangePolicy", text),
    ("seLinuxOptions", seLinuxOptions),
    ("seccompProfile", securityProfile "SeccompProfile"),
    ("supplementalGroups", list int64),
    ("supplementalGroupsPolicy", text),
    ("sysctls", list (object "Sysctl" [("name", text), ("value", text)])),
    ("windowsOptions", windowsOptions)]

/-- How a pod resolves names. -/
def dnsConfig : Shape :=
  object "PodDNSConfig" [
    ("nameservers", texts),
    ("options", list (object "PodDNSConfigOption" [("name", text), ("value", text)])),
    ("searches", texts)]

/-- The fields of the content of a pod. -/
def podSpecFields : Shapes := [
  ("activeDeadlineSeconds", int64),
  ("affinity", affinity),
  ("automountServiceAccountToken", flag),
  ("containers", list container),
  ("dnsConfig", dnsConfig),
  ("dnsPolicy", text),
  ("enableServiceLinks", flag),
  ("ephemeralContainers", list ephemeralContainer),
  ("hostAliases", list (object "HostAlias" [("hostnames", texts), ("ip", text)])),
  ("hostIPC", flag),
  ("hostNetwork", flag),
  ("hostPID", flag),
  ("hostUsers", flag),
  ("hostname", text),
  ("imagePullSecrets", list localReference),
  ("initContainers", list container),
  ("nodeName", text),
  ("nodeSelector", textMap),
  ("os", object "PodOS" [("name", text)]),
  ("overhead", quantities),
  ("preemptionPolicy", text),
  ("priority", int32),
  ("priorityClassName", text),
  ("readinessGates", list (object "PodReadinessGate" [("conditionType", text)])),
  ("resourceClaims", list (object "PodResourceClaim" [
    ("name", text), ("resourceClaimName", text), ("resourceClaimTemplateName", text)])),
  ("resources", resourceRequirements),
  ("restartPolicy", text),
  ("runtimeClassName", text),
  ("schedulerName", text),
  ("schedulingGates", list (object "PodSchedulingGate" [("name", text)])),
  ("securityContext", podSecurityContext),
  ("serviceAccount", text),
  ("serviceAccountName", text),
  ("setHostnameAsFQDN", flag),
  ("shareProcessNamespace", flag),
  ("subdomain", text),
  ("terminationGracePeriodSeconds", int64),
  ("tolerations", list toleration),
  ("topologySpreadConstraints", list topologySpreadConstraint),
  ("volumes", list volume)]

/-- The fields of the status of a pod. -/
def podStatusFields : Shapes := [
  ("conditions", list (object "PodCondition" [
    ("lastProbeTime", time),
    ("lastTransitionTime", time),
    ("message", text),
    ("observedGeneration", int64),
    ("reason", text),
    ("status", text),
    ("type", text)])),
  ("containerStatuses", list containerStatus),
  ("ephemeralContainerStatuses", list containerStatus),
  ("hostIP", text),
  ("hostIPs", list (object "HostIP" [("ip", text)])),
  ("initContainerStatuses", list containerStatus),
  ("message", text),
  ("nominatedNodeName", text),
  ("observedGeneration", int64),
  ("phase", text),
  ("podIP", text),
  ("podIPs", list (object "PodIP" [("ip", text)])),
  ("qosClass", text),
  ("reason", text),
  ("resize", text),
  ("resourceClaimStatuses", list (object "PodResourceClaimStatus" [
    ("name", text), ("resourceClaimName", text)])),
  ("startTime", time)]

end PeerFirewall.Shape
