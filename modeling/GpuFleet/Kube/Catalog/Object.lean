import GpuFleet.Kube.Catalog.Pod

/-!
The shapes of the two kinds of objects that the operator reads and writes whole: DaemonSets and
nodes.
-/
namespace GpuFleet.Kube.Catalog

def rollingUpdateDaemonSet : Shape := .record [
  .optional "maxSurge" .intOrText, .optional "maxUnavailable" .intOrText]

def daemonSetUpdateStrategy : Shape := .record [
  .optional "rollingUpdate" rollingUpdateDaemonSet, .optional "type" .text]

/-- The members of `DaemonSetSpec` that are carried along. -/
def daemonSetSpecRest : List Field := [
  .optional "minReadySeconds" .int32, .optional "revisionHistoryLimit" .int32,
  .required "selector" labelSelector]

def daemonSetSpec : Shape := .record ([
  .required "template" podTemplateSpec, .optional "updateStrategy" daemonSetUpdateStrategy] ++
  daemonSetSpecRest)

def daemonSetCondition : Shape := .record [
  .optional "lastTransitionTime" .moment, .optional "message" .text, .optional "reason" .text,
  .required "status" .text, .required "type" .text]

def daemonSetStatus : Shape := .record [
  .optional "collisionCount" .int32, .optional "conditions" (.list daemonSetCondition),
  .required "currentNumberScheduled" .int32, .required "desiredNumberScheduled" .int32,
  .optional "numberAvailable" .int32, .required "numberMisscheduled" .int32,
  .required "numberReady" .int32, .optional "numberUnavailable" .int32,
  .optional "observedGeneration" .int64, .optional "updatedNumberScheduled" .int32]

/-- The members of `DaemonSet` that are carried along. -/
def daemonSetRest : List Field := [.optional "status" daemonSetStatus]

def daemonSet : Shape := .record ([
  .optional "apiVersion" .text, .optional "kind" .text,
  .required "metadata" objectMeta, .optional "spec" daemonSetSpec] ++
  daemonSetRest)

def configMapNodeConfigSource : Shape := .record [
  .required "kubeletConfigKey" .text, .required "name" .text, .required "namespace" .text,
  .optional "resourceVersion" .text, .optional "uid" .text]

def nodeConfigSource : Shape := .record [.optional "configMap" configMapNodeConfigSource]

def taint : Shape := .record [
  .required "effect" .text, .required "key" .text, .optional "timeAdded" .moment,
  .optional "value" .text]

def nodeSpec : Shape := .record [
  .optional "configSource" nodeConfigSource, .optional "externalID" .text,
  .optional "podCIDR" .text, .optional "podCIDRs" (.list .text), .optional "providerID" .text,
  .optional "taints" (.list taint), .optional "unschedulable" .flag]

def nodeAddress : Shape := .record [.required "address" .text, .required "type" .text]

def nodeCondition : Shape := .record [
  .optional "lastHeartbeatTime" .moment, .optional "lastTransitionTime" .moment,
  .optional "message" .text, .optional "reason" .text, .required "status" .text,
  .required "type" .text]

def nodeConfigStatus : Shape := .record [
  .optional "active" nodeConfigSource, .optional "assigned" nodeConfigSource,
  .optional "error" .text, .optional "lastKnownGood" nodeConfigSource]

def daemonEndpoint : Shape := .record [.required "Port" .int32]

def nodeDaemonEndpoints : Shape := .record [.optional "kubeletEndpoint" daemonEndpoint]

def containerImage : Shape := .record [
  .optional "names" (.list .text), .optional "sizeBytes" .int64]

/-- The members of `NodeSystemInfo` that are carried along. -/
def nodeSystemInfoRest : List Field := [
  .required "architecture" .text, .required "bootID" .text, .required "kernelVersion" .text,
  .required "kubeProxyVersion" .text, .required "kubeletVersion" .text, .required "machineID" .text,
  .required "operatingSystem" .text, .required "osImage" .text, .required "systemUUID" .text]

def nodeSystemInfo : Shape := .record ([.required "containerRuntimeVersion" .text] ++
  nodeSystemInfoRest)

def nodeRuntimeHandlerFeatures : Shape := .record [.optional "recursiveReadOnlyMounts" .flag]

def nodeRuntimeHandler : Shape := .record [
  .optional "features" nodeRuntimeHandlerFeatures, .optional "name" .text]

def attachedVolume : Shape := .record [.required "devicePath" .text, .required "name" .text]

/-- The members of `NodeStatus` that are carried along. -/
def nodeStatusRest : List Field := [
  .optional "addresses" (.list nodeAddress), .optional "allocatable" (.dict .quantity),
  .optional "capacity" (.dict .quantity), .optional "conditions" (.list nodeCondition),
  .optional "config" nodeConfigStatus, .optional "daemonEndpoints" nodeDaemonEndpoints,
  .optional "images" (.list containerImage), .optional "phase" .text,
  .optional "runtimeHandlers" (.list nodeRuntimeHandler),
  .optional "volumesAttached" (.list attachedVolume), .optional "volumesInUse" (.list .text)]

def nodeStatus : Shape := .record ([.optional "nodeInfo" nodeSystemInfo] ++ nodeStatusRest)

/-- The members of `Node` that are carried along. -/
def nodeRest : List Field := [.optional "spec" nodeSpec]

def node : Shape := .record ([
  .optional "apiVersion" .text, .optional "kind" .text,
  .required "metadata" objectMeta, .optional "status" nodeStatus] ++
  nodeRest)

end GpuFleet.Kube.Catalog
