import PeerFirewall.Resource.Metadata

/-!
# The shapes of containers

What a container of a pod is made of: its image and command, its environment, its probes and hooks,
what it may use and what it may do.
-/
namespace PeerFirewall.Shape

/-- An amount of something, which is written as text. -/
def quantity : Shape := text

/-- Amounts by name. -/
def quantities : Shape := map quantity

/-- Texts by name. -/
def textMap : Shape := map text

/-- A whole number of 32 bits or a text. -/
def numberOrText : Shape
  | .str _ => .ok ()
  | .int n =>
    if -2147483648 ≤ n ∧ n ≤ 2147483647 then .ok ()
    else .error (.outOfRange n "a 32-bit integer")
  | value => Decoder.mismatch value "IntOrString"

/-- A reference to an object of the same namespace by its name. -/
def localReference : Shape := object "LocalObjectReference" [("name", text)]

/-! ### The environment -/

/-- A field of an object as a source. -/
def objectFieldSelector : Shape :=
  object "ObjectFieldSelector" [("apiVersion", text), ("fieldPath", text)]

/-- A resource of a container as a source. -/
def resourceFieldSelector : Shape :=
  object "ResourceFieldSelector" [
    ("containerName", text), ("divisor", quantity), ("resource", text)]

/-- A key of an object as a source. -/
def keySelector (name : String) : Shape :=
  object name [("key", text), ("name", text), ("optional", flag)]

/-- A variable of the environment. -/
def variableOfEnvironment : Shape :=
  object "EnvVar" [
    ("name", text),
    ("value", text),
    ("valueFrom", object "EnvVarSource" [
      ("configMapKeyRef", keySelector "ConfigMapKeySelector"),
      ("fieldRef", objectFieldSelector),
      ("resourceFieldRef", resourceFieldSelector),
      ("secretKeyRef", keySelector "SecretKeySelector")])]

/-- A source of many variables. -/
def environmentSource : Shape :=
  object "EnvFromSource" [
    ("configMapRef", object "ConfigMapEnvSource" [("name", text), ("optional", flag)]),
    ("prefix", text),
    ("secretRef", object "SecretEnvSource" [("name", text), ("optional", flag)])]

/-! ### Probes and hooks -/

/-- A command to run. -/
def execAction : Shape := object "ExecAction" [("command", texts)]

/-- A request to send. -/
def httpGetAction : Shape :=
  object "HTTPGetAction" [
    ("host", text),
    ("httpHeaders", list (object "HTTPHeader" [("name", text), ("value", text)])),
    ("path", text),
    ("port", numberOrText),
    ("scheme", text)]

/-- A connection to open. -/
def tcpSocketAction : Shape :=
  object "TCPSocketAction" [("host", text), ("port", numberOrText)]

/-- What is done at a point of the life of a container. -/
def lifecycleHandler : Shape :=
  object "LifecycleHandler" [
    ("exec", execAction),
    ("httpGet", httpGetAction),
    ("sleep", object "SleepAction" [("seconds", int64)]),
    ("tcpSocket", tcpSocketAction)]

/-- What is done along the life of a container. -/
def lifecycle : Shape :=
  object "Lifecycle" [
    ("postStart", lifecycleHandler), ("preStop", lifecycleHandler), ("stopSignal", text)]

/-- A repeated check of a container. -/
def probe : Shape :=
  object "Probe" [
    ("exec", execAction),
    ("failureThreshold", int32),
    ("grpc", object "GRPCAction" [("port", int32), ("service", text)]),
    ("httpGet", httpGetAction),
    ("initialDelaySeconds", int32),
    ("periodSeconds", int32),
    ("successThreshold", int32),
    ("tcpSocket", tcpSocketAction),
    ("terminationGracePeriodSeconds", int64),
    ("timeoutSeconds", int32)]

/-! ### Resources and rights -/

/-- What a container needs and may use. -/
def resourceRequirements : Shape :=
  object "ResourceRequirements" [
    ("claims", list (object "ResourceClaim" [("name", text), ("request", text)])),
    ("limits", quantities),
    ("requests", quantities)]

/-- A profile of a security module. -/
def securityProfile (name : String) : Shape :=
  object name [("localhostProfile", text), ("type", text)]

/-- Labels of a security module. -/
def seLinuxOptions : Shape :=
  object "SELinuxOptions" [("level", text), ("role", text), ("type", text), ("user", text)]

/-- Rights under another operating system. -/
def windowsOptions : Shape :=
  object "WindowsSecurityContextOptions" [
    ("gmsaCredentialSpec", text),
    ("gmsaCredentialSpecName", text),
    ("hostProcess", flag),
    ("runAsUserName", text)]

/-- The rights of a container. -/
def securityContext : Shape :=
  object "SecurityContext" [
    ("allowPrivilegeEscalation", flag),
    ("appArmorProfile", securityProfile "AppArmorProfile"),
    ("capabilities", object "Capabilities" [("add", texts), ("drop", texts)]),
    ("privileged", flag),
    ("procMount", text),
    ("readOnlyRootFilesystem", flag),
    ("runAsGroup", int64),
    ("runAsNonRoot", flag),
    ("runAsUser", int64),
    ("seLinuxOptions", seLinuxOptions),
    ("seccompProfile", securityProfile "SeccompProfile"),
    ("windowsOptions", windowsOptions)]

/-! ### Containers -/

/-- Where a container listens. -/
def containerPort : Shape :=
  object "ContainerPort" [
    ("containerPort", int32),
    ("hostIP", text),
    ("hostPort", int32),
    ("name", text),
    ("protocol", text)]

/-- A volume in the file system of a container. -/
def volumeMount : Shape :=
  object "VolumeMount" [
    ("mountPath", text),
    ("mountPropagation", text),
    ("name", text),
    ("readOnly", flag),
    ("recursiveReadOnly", text),
    ("subPath", text),
    ("subPathExpr", text)]

/-- The fields of a container of any sort. -/
def containerFields : Shapes := [
  ("args", texts),
  ("command", texts),
  ("env", list variableOfEnvironment),
  ("envFrom", list environmentSource),
  ("image", text),
  ("imagePullPolicy", text),
  ("lifecycle", lifecycle),
  ("livenessProbe", probe),
  ("name", text),
  ("ports", list containerPort),
  ("readinessProbe", probe),
  ("resizePolicy", list (object "ContainerResizePolicy" [
    ("resourceName", text), ("restartPolicy", text)])),
  ("resources", resourceRequirements),
  ("restartPolicy", text),
  ("securityContext", securityContext),
  ("startupProbe", probe),
  ("stdin", flag),
  ("stdinOnce", flag),
  ("terminationMessagePath", text),
  ("terminationMessagePolicy", text),
  ("tty", flag),
  ("volumeDevices", list (object "VolumeDevice" [("devicePath", text), ("name", text)])),
  ("volumeMounts", list volumeMount),
  ("workingDir", text)]

/-- A container. -/
def container : Shape := object "Container" containerFields

/-- A container that is added to a running pod. -/
def ephemeralContainer : Shape :=
  object "EphemeralContainer" (containerFields ++ [("targetContainerName", text)])

/-! ### The state of containers -/

/-- What a container is doing. -/
def containerState : Shape :=
  object "ContainerState" [
    ("running", object "ContainerStateRunning" [("startedAt", time)]),
    ("terminated", object "ContainerStateTerminated" [
      ("containerID", text),
      ("exitCode", int32),
      ("finishedAt", time),
      ("message", text),
      ("reason", text),
      ("signal", int32),
      ("startedAt", time)]),
    ("waiting", object "ContainerStateWaiting" [("message", text), ("reason", text)])]

/-- The status of a resource of a container. -/
def resourceStatus : Shape :=
  object "ResourceStatus" [
    ("name", text),
    ("resources", list (object "ResourceHealth" [("health", text), ("resourceID", text)]))]

/-- The user that a container runs as. -/
def containerUser : Shape :=
  object "ContainerUser" [
    ("linux", object "LinuxContainerUser" [
      ("gid", int64), ("supplementalGroups", list int64), ("uid", int64)])]

/-- The status of a container. -/
def containerStatus : Shape :=
  object "ContainerStatus" [
    ("allocatedResources", quantities),
    ("allocatedResourcesStatus", list resourceStatus),
    ("containerID", text),
    ("image", text),
    ("imageID", text),
    ("lastState", containerState),
    ("name", text),
    ("ready", flag),
    ("resources", resourceRequirements),
    ("restartCount", int32),
    ("started", flag),
    ("state", containerState),
    ("stopSignal", text),
    ("user", containerUser),
    ("volumeMounts", list (object "VolumeMountStatus" [
      ("mountPath", text), ("name", text), ("readOnly", flag), ("recursiveReadOnly", text)]))]

end PeerFirewall.Shape
