import PeerFirewall.Resource.Shape.Container
import PeerFirewall.Resource.Shape.Scheduling

/-!
# The shapes of volumes

A volume has a name and one source: a directory of the node, an object of the cluster, a claim, or
one of the storage systems.
-/
namespace PeerFirewall.Shape

/-! ### Sources within the cluster -/

/-- The keys that become files. -/
def keysToPaths : Shape :=
  list (object "KeyToPath" [("key", text), ("mode", int32), ("path", text)])

/-- The files that hold fields of the pod. -/
def downwardFiles : Shape :=
  list (object "DownwardAPIVolumeFile" [
    ("fieldRef", objectFieldSelector),
    ("mode", int32),
    ("path", text),
    ("resourceFieldRef", resourceFieldSelector)])

/-- An object whose keys become files. -/
def keyProjection (name : String) : Shape :=
  object name [("items", keysToPaths), ("name", text), ("optional", flag)]

/-- One of several sources in one volume. -/
def volumeProjection : Shape :=
  object "VolumeProjection" [
    ("clusterTrustBundle", object "ClusterTrustBundleProjection" [
      ("labelSelector", labelSelector),
      ("name", text),
      ("optional", flag),
      ("path", text),
      ("signerName", text)]),
    ("configMap", keyProjection "ConfigMapProjection"),
    ("downwardAPI", object "DownwardAPIProjection" [("items", downwardFiles)]),
    ("secret", keyProjection "SecretProjection"),
    ("serviceAccountToken", object "ServiceAccountTokenProjection" [
      ("audience", text), ("expirationSeconds", int64), ("path", text)])]

/-- The content of a claim of storage. -/
def claimSpec : Shape :=
  object "PersistentVolumeClaimSpec" [
    ("accessModes", texts),
    ("dataSource", object "TypedLocalObjectReference" [
      ("apiGroup", text), ("kind", text), ("name", text)]),
    ("dataSourceRef", object "TypedObjectReference" [
      ("apiGroup", text), ("kind", text), ("name", text), ("namespace", text)]),
    ("resources", object "VolumeResourceRequirements" [
      ("limits", quantities), ("requests", quantities)]),
    ("selector", labelSelector),
    ("storageClassName", text),
    ("volumeAttributesClassName", text),
    ("volumeMode", text),
    ("volumeName", text)]

/-- Sources that the cluster itself provides. -/
def clusterSources : Shapes := [
  ("configMap", object "ConfigMapVolumeSource" [
    ("defaultMode", int32), ("items", keysToPaths), ("name", text), ("optional", flag)]),
  ("csi", object "CSIVolumeSource" [
    ("driver", text),
    ("fsType", text),
    ("nodePublishSecretRef", localReference),
    ("readOnly", flag),
    ("volumeAttributes", textMap)]),
  ("downwardAPI", object "DownwardAPIVolumeSource" [
    ("defaultMode", int32), ("items", downwardFiles)]),
  ("emptyDir", object "EmptyDirVolumeSource" [("medium", text), ("sizeLimit", quantity)]),
  ("ephemeral", object "EphemeralVolumeSource" [
    ("volumeClaimTemplate", object "PersistentVolumeClaimTemplate" [
      ("metadata", of Metadata.decode), ("spec", claimSpec)])]),
  ("hostPath", object "HostPathVolumeSource" [("path", text), ("type", text)]),
  ("image", object "ImageVolumeSource" [("pullPolicy", text), ("reference", text)]),
  ("persistentVolumeClaim", object "PersistentVolumeClaimVolumeSource" [
    ("claimName", text), ("readOnly", flag)]),
  ("projected", object "ProjectedVolumeSource" [
    ("defaultMode", int32), ("sources", list volumeProjection)]),
  ("secret", object "SecretVolumeSource" [
    ("defaultMode", int32), ("items", keysToPaths), ("optional", flag), ("secretName", text)])]

/-! ### Storage systems -/

/-- Sources that storage systems provide. -/
def storageSources : Shapes := [
  ("awsElasticBlockStore", object "AWSElasticBlockStoreVolumeSource" [
    ("fsType", text), ("partition", int32), ("readOnly", flag), ("volumeID", text)]),
  ("azureDisk", object "AzureDiskVolumeSource" [
    ("cachingMode", text),
    ("diskName", text),
    ("diskURI", text),
    ("fsType", text),
    ("kind", text),
    ("readOnly", flag)]),
  ("azureFile", object "AzureFileVolumeSource" [
    ("readOnly", flag), ("secretName", text), ("shareName", text)]),
  ("cephfs", object "CephFSVolumeSource" [
    ("monitors", texts),
    ("path", text),
    ("readOnly", flag),
    ("secretFile", text),
    ("secretRef", localReference),
    ("user", text)]),
  ("cinder", object "CinderVolumeSource" [
    ("fsType", text), ("readOnly", flag), ("secretRef", localReference), ("volumeID", text)]),
  ("fc", object "FCVolumeSource" [
    ("fsType", text),
    ("lun", int32),
    ("readOnly", flag),
    ("targetWWNs", texts),
    ("wwids", texts)]),
  ("flexVolume", object "FlexVolumeSource" [
    ("driver", text),
    ("fsType", text),
    ("options", textMap),
    ("readOnly", flag),
    ("secretRef", localReference)]),
  ("flocker", object "FlockerVolumeSource" [("datasetName", text), ("datasetUUID", text)]),
  ("gcePersistentDisk", object "GCEPersistentDiskVolumeSource" [
    ("fsType", text), ("partition", int32), ("pdName", text), ("readOnly", flag)]),
  ("gitRepo", object "GitRepoVolumeSource" [
    ("directory", text), ("repository", text), ("revision", text)]),
  ("glusterfs", object "GlusterfsVolumeSource" [
    ("endpoints", text), ("path", text), ("readOnly", flag)]),
  ("iscsi", object "ISCSIVolumeSource" [
    ("chapAuthDiscovery", flag),
    ("chapAuthSession", flag),
    ("fsType", text),
    ("initiatorName", text),
    ("iqn", text),
    ("iscsiInterface", text),
    ("lun", int32),
    ("portals", texts),
    ("readOnly", flag),
    ("secretRef", localReference),
    ("targetPortal", text)]),
  ("nfs", object "NFSVolumeSource" [("path", text), ("readOnly", flag), ("server", text)]),
  ("photonPersistentDisk", object "PhotonPersistentDiskVolumeSource" [
    ("fsType", text), ("pdID", text)]),
  ("portworxVolume", object "PortworxVolumeSource" [
    ("fsType", text), ("readOnly", flag), ("volumeID", text)]),
  ("quobyte", object "QuobyteVolumeSource" [
    ("group", text),
    ("readOnly", flag),
    ("registry", text),
    ("tenant", text),
    ("user", text),
    ("volume", text)]),
  ("rbd", object "RBDVolumeSource" [
    ("fsType", text),
    ("image", text),
    ("keyring", text),
    ("monitors", texts),
    ("pool", text),
    ("readOnly", flag),
    ("secretRef", localReference),
    ("user", text)]),
  ("scaleIO", object "ScaleIOVolumeSource" [
    ("fsType", text),
    ("gateway", text),
    ("protectionDomain", text),
    ("readOnly", flag),
    ("secretRef", localReference),
    ("sslEnabled", flag),
    ("storageMode", text),
    ("storagePool", text),
    ("system", text),
    ("volumeName", text)]),
  ("storageos", object "StorageOSVolumeSource" [
    ("fsType", text),
    ("readOnly", flag),
    ("secretRef", localReference),
    ("volumeName", text),
    ("volumeNamespace", text)]),
  ("vsphereVolume", object "VsphereVirtualDiskVolumeSource" [
    ("fsType", text),
    ("storagePolicyID", text),
    ("storagePolicyName", text),
    ("volumePath", text)])]

/-- A volume. -/
def volume : Shape := object "Volume" (("name", text) :: clusterSources ++ storageSources)

end PeerFirewall.Shape
