import GpuFleet.Kube.Catalog.Meta

/-!
The shapes of volumes and of every kind of volume source.
-/
namespace GpuFleet.Kube.Catalog

def objectFieldSelector : Shape := .record [
  .optional "apiVersion" .text, .required "fieldPath" .text]

def resourceFieldSelector : Shape := .record [
  .optional "containerName" .text, .optional "divisor" .quantity, .required "resource" .text]

def awsElasticBlockStoreVolumeSource : Shape := .record [
  .optional "fsType" .text, .optional "partition" .int32, .optional "readOnly" .flag,
  .required "volumeID" .text]

def azureDiskVolumeSource : Shape := .record [
  .optional "cachingMode" .text, .required "diskName" .text, .required "diskURI" .text,
  .optional "fsType" .text, .optional "kind" .text, .optional "readOnly" .flag]

def azureFileVolumeSource : Shape := .record [
  .optional "readOnly" .flag, .required "secretName" .text, .required "shareName" .text]

def cephFSVolumeSource : Shape := .record [
  .required "monitors" (.list .text), .optional "path" .text, .optional "readOnly" .flag,
  .optional "secretFile" .text, .optional "secretRef" localObjectReference, .optional "user" .text]

def cinderVolumeSource : Shape := .record [
  .optional "fsType" .text, .optional "readOnly" .flag, .optional "secretRef" localObjectReference,
  .required "volumeID" .text]

def keyToPath : Shape := .record [
  .required "key" .text, .optional "mode" .int32, .required "path" .text]

/-- The members of `ConfigMapVolumeSource` that are carried along. -/
def configMapVolumeSourceRest : List Field := [
  .optional "defaultMode" .int32, .optional "items" (.list keyToPath), .optional "optional" .flag]

def configMapVolumeSource : Shape := .record ([.required "name" .text] ++ configMapVolumeSourceRest)

def csiVolumeSource : Shape := .record [
  .required "driver" .text, .optional "fsType" .text,
  .optional "nodePublishSecretRef" localObjectReference, .optional "readOnly" .flag,
  .optional "volumeAttributes" (.dict .text)]

def downwardAPIVolumeFile : Shape := .record [
  .optional "fieldRef" objectFieldSelector, .optional "mode" .int32, .required "path" .text,
  .optional "resourceFieldRef" resourceFieldSelector]

def downwardAPIVolumeSource : Shape := .record [
  .optional "defaultMode" .int32, .optional "items" (.list downwardAPIVolumeFile)]

def emptyDirVolumeSource : Shape := .record [
  .optional "medium" .text, .optional "sizeLimit" .quantity]

def typedLocalObjectReference : Shape := .record [
  .optional "apiGroup" .text, .required "kind" .text, .required "name" .text]

def typedObjectReference : Shape := .record [
  .optional "apiGroup" .text, .required "kind" .text, .required "name" .text,
  .optional "namespace" .text]

def volumeResourceRequirements : Shape := .record [
  .optional "limits" (.dict .quantity), .optional "requests" (.dict .quantity)]

def persistentVolumeClaimSpec : Shape := .record [
  .optional "accessModes" (.list .text), .optional "dataSource" typedLocalObjectReference,
  .optional "dataSourceRef" typedObjectReference, .optional "resources" volumeResourceRequirements,
  .optional "selector" labelSelector, .optional "storageClassName" .text,
  .optional "volumeAttributesClassName" .text, .optional "volumeMode" .text,
  .optional "volumeName" .text]

def persistentVolumeClaimTemplate : Shape := .record [
  .optional "metadata" objectMeta, .required "spec" persistentVolumeClaimSpec]

def ephemeralVolumeSource : Shape := .record [
  .optional "volumeClaimTemplate" persistentVolumeClaimTemplate]

def fcVolumeSource : Shape := .record [
  .optional "fsType" .text, .optional "lun" .int32, .optional "readOnly" .flag,
  .optional "targetWWNs" (.list .text), .optional "wwids" (.list .text)]

def flexVolumeSource : Shape := .record [
  .required "driver" .text, .optional "fsType" .text, .optional "options" (.dict .text),
  .optional "readOnly" .flag, .optional "secretRef" localObjectReference]

def flockerVolumeSource : Shape := .record [
  .optional "datasetName" .text, .optional "datasetUUID" .text]

def gcePersistentDiskVolumeSource : Shape := .record [
  .optional "fsType" .text, .optional "partition" .int32, .required "pdName" .text,
  .optional "readOnly" .flag]

def gitRepoVolumeSource : Shape := .record [
  .optional "directory" .text, .required "repository" .text, .optional "revision" .text]

def glusterfsVolumeSource : Shape := .record [
  .required "endpoints" .text, .required "path" .text, .optional "readOnly" .flag]

/-- The members of `HostPathVolumeSource` that are carried along. -/
def hostPathVolumeSourceRest : List Field := [.optional "type" .text]

def hostPathVolumeSource : Shape := .record ([.required "path" .text] ++ hostPathVolumeSourceRest)

def iscsiVolumeSource : Shape := .record [
  .optional "chapAuthDiscovery" .flag, .optional "chapAuthSession" .flag, .optional "fsType" .text,
  .optional "initiatorName" .text, .required "iqn" .text, .optional "iscsiInterface" .text,
  .required "lun" .int32, .optional "portals" (.list .text), .optional "readOnly" .flag,
  .optional "secretRef" localObjectReference, .required "targetPortal" .text]

def nfsVolumeSource : Shape := .record [
  .required "path" .text, .optional "readOnly" .flag, .required "server" .text]

def persistentVolumeClaimVolumeSource : Shape := .record [
  .required "claimName" .text, .optional "readOnly" .flag]

def photonPersistentDiskVolumeSource : Shape := .record [
  .optional "fsType" .text, .required "pdID" .text]

def portworxVolumeSource : Shape := .record [
  .optional "fsType" .text, .optional "readOnly" .flag, .required "volumeID" .text]

def clusterTrustBundleProjection : Shape := .record [
  .optional "labelSelector" labelSelector, .optional "name" .text, .optional "optional" .flag,
  .required "path" .text, .optional "signerName" .text]

def configMapProjection : Shape := .record [
  .optional "items" (.list keyToPath), .required "name" .text, .optional "optional" .flag]

def downwardAPIProjection : Shape := .record [.optional "items" (.list downwardAPIVolumeFile)]

def secretProjection : Shape := .record [
  .optional "items" (.list keyToPath), .required "name" .text, .optional "optional" .flag]

def serviceAccountTokenProjection : Shape := .record [
  .optional "audience" .text, .optional "expirationSeconds" .int64, .required "path" .text]

def volumeProjection : Shape := .record [
  .optional "clusterTrustBundle" clusterTrustBundleProjection,
  .optional "configMap" configMapProjection, .optional "downwardAPI" downwardAPIProjection,
  .optional "secret" secretProjection,
  .optional "serviceAccountToken" serviceAccountTokenProjection]

def projectedVolumeSource : Shape := .record [
  .optional "defaultMode" .int32, .optional "sources" (.list volumeProjection)]

def quobyteVolumeSource : Shape := .record [
  .optional "group" .text, .optional "readOnly" .flag, .required "registry" .text,
  .optional "tenant" .text, .optional "user" .text, .required "volume" .text]

def rbdVolumeSource : Shape := .record [
  .optional "fsType" .text, .required "image" .text, .optional "keyring" .text,
  .required "monitors" (.list .text), .optional "pool" .text, .optional "readOnly" .flag,
  .optional "secretRef" localObjectReference, .optional "user" .text]

def scaleIOVolumeSource : Shape := .record [
  .optional "fsType" .text, .required "gateway" .text, .optional "protectionDomain" .text,
  .optional "readOnly" .flag, .required "secretRef" localObjectReference,
  .optional "sslEnabled" .flag, .optional "storageMode" .text, .optional "storagePool" .text,
  .required "system" .text, .optional "volumeName" .text]

/-- The members of `SecretVolumeSource` that are carried along. -/
def secretVolumeSourceRest : List Field := [
  .optional "defaultMode" .int32, .optional "items" (.list keyToPath), .optional "optional" .flag]

def secretVolumeSource : Shape := .record ([.optional "secretName" .text] ++ secretVolumeSourceRest)

def storageOSVolumeSource : Shape := .record [
  .optional "fsType" .text, .optional "readOnly" .flag, .optional "secretRef" localObjectReference,
  .optional "volumeName" .text, .optional "volumeNamespace" .text]

def vsphereVirtualDiskVolumeSource : Shape := .record [
  .optional "fsType" .text, .optional "storagePolicyID" .text, .optional "storagePolicyName" .text,
  .required "volumePath" .text]

/-- The members of `Volume` that are carried along. -/
def volumeRest : List Field := [
  .optional "awsElasticBlockStore" awsElasticBlockStoreVolumeSource,
  .optional "azureDisk" azureDiskVolumeSource, .optional "azureFile" azureFileVolumeSource,
  .optional "cephfs" cephFSVolumeSource, .optional "cinder" cinderVolumeSource,
  .optional "csi" csiVolumeSource, .optional "downwardAPI" downwardAPIVolumeSource,
  .optional "emptyDir" emptyDirVolumeSource, .optional "ephemeral" ephemeralVolumeSource,
  .optional "fc" fcVolumeSource, .optional "flexVolume" flexVolumeSource,
  .optional "flocker" flockerVolumeSource,
  .optional "gcePersistentDisk" gcePersistentDiskVolumeSource,
  .optional "gitRepo" gitRepoVolumeSource, .optional "glusterfs" glusterfsVolumeSource,
  .optional "iscsi" iscsiVolumeSource, .optional "nfs" nfsVolumeSource,
  .optional "persistentVolumeClaim" persistentVolumeClaimVolumeSource,
  .optional "photonPersistentDisk" photonPersistentDiskVolumeSource,
  .optional "portworxVolume" portworxVolumeSource, .optional "projected" projectedVolumeSource,
  .optional "quobyte" quobyteVolumeSource, .optional "rbd" rbdVolumeSource,
  .optional "scaleIO" scaleIOVolumeSource, .optional "storageos" storageOSVolumeSource,
  .optional "vsphereVolume" vsphereVirtualDiskVolumeSource]

def volume : Shape := .record ([
  .optional "configMap" configMapVolumeSource, .optional "hostPath" hostPathVolumeSource,
  .required "name" .text, .optional "secret" secretVolumeSource] ++ volumeRest)

end GpuFleet.Kube.Catalog
