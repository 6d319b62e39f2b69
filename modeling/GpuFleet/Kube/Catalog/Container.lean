import GpuFleet.Kube.Catalog.Volume

/-!
The shapes of containers: environment, ports, probes, mounts and security settings.
-/
namespace GpuFleet.Kube.Catalog

def configMapKeySelector : Shape := .record [
  .required "key" .text, .required "name" .text, .optional "optional" .flag]

def secretKeySelector : Shape := .record [
  .required "key" .text, .required "name" .text, .optional "optional" .flag]

def envVarSource : Shape := .record [
  .optional "configMapKeyRef" configMapKeySelector, .optional "fieldRef" objectFieldSelector,
  .optional "resourceFieldRef" resourceFieldSelector, .optional "secretKeyRef" secretKeySelector]

def envVar : Shape := .record [
  .required "name" .text, .optional "value" .text, .optional "valueFrom" envVarSource]

def configMapEnvSource : Shape := .record [.required "name" .text, .optional "optional" .flag]

def secretEnvSource : Shape := .record [.required "name" .text, .optional "optional" .flag]

def envFromSource : Shape := .record [
  .optional "configMapRef" configMapEnvSource, .optional "prefix" .text,
  .optional "secretRef" secretEnvSource]

def execAction : Shape := .record [.optional "command" (.list .text)]

def httpHeader : Shape := .record [.required "name" .text, .required "value" .text]

def httpGetAction : Shape := .record [
  .optional "host" .text, .optional "httpHeaders" (.list httpHeader), .optional "path" .text,
  .required "port" .intOrText, .optional "scheme" .text]

def sleepAction : Shape := .record [.required "seconds" .int64]

def tcpSocketAction : Shape := .record [.optional "host" .text, .required "port" .intOrText]

def lifecycleHandler : Shape := .record [
  .optional "exec" execAction, .optional "httpGet" httpGetAction, .optional "sleep" sleepAction,
  .optional "tcpSocket" tcpSocketAction]

def lifecycle : Shape := .record [
  .optional "postStart" lifecycleHandler, .optional "preStop" lifecycleHandler]

def grpcAction : Shape := .record [.required "port" .int32, .optional "service" .text]

def probe : Shape := .record [
  .optional "exec" execAction, .optional "failureThreshold" .int32, .optional "grpc" grpcAction,
  .optional "httpGet" httpGetAction, .optional "initialDelaySeconds" .int32,
  .optional "periodSeconds" .int32, .optional "successThreshold" .int32,
  .optional "tcpSocket" tcpSocketAction, .optional "terminationGracePeriodSeconds" .int64,
  .optional "timeoutSeconds" .int32]

def containerPort : Shape := .record [
  .required "containerPort" .int32, .optional "hostIP" .text, .optional "hostPort" .int32,
  .optional "name" .text, .optional "protocol" .text]

def containerResizePolicy : Shape := .record [
  .required "resourceName" .text, .required "restartPolicy" .text]

def resourceClaim : Shape := .record [.required "name" .text]

def resourceRequirements : Shape := .record [
  .optional "claims" (.list resourceClaim), .optional "limits" (.dict .quantity),
  .optional "requests" (.dict .quantity)]

def appArmorProfile : Shape := .record [.optional "localhostProfile" .text, .required "type" .text]

def capabilities : Shape := .record [.optional "add" (.list .text), .optional "drop" (.list .text)]

def seLinuxOptions : Shape := .record [
  .optional "level" .text, .optional "role" .text, .optional "type" .text, .optional "user" .text]

def seccompProfile : Shape := .record [.optional "localhostProfile" .text, .required "type" .text]

def windowsSecurityContextOptions : Shape := .record [
  .optional "gmsaCredentialSpec" .text, .optional "gmsaCredentialSpecName" .text,
  .optional "hostProcess" .flag, .optional "runAsUserName" .text]

def securityContext : Shape := .record [
  .optional "allowPrivilegeEscalation" .flag, .optional "appArmorProfile" appArmorProfile,
  .optional "capabilities" capabilities, .optional "privileged" .flag, .optional "procMount" .text,
  .optional "readOnlyRootFilesystem" .flag, .optional "runAsGroup" .int64,
  .optional "runAsNonRoot" .flag, .optional "runAsUser" .int64,
  .optional "seLinuxOptions" seLinuxOptions, .optional "seccompProfile" seccompProfile,
  .optional "windowsOptions" windowsSecurityContextOptions]

def volumeDevice : Shape := .record [.required "devicePath" .text, .required "name" .text]

/-- The members of `VolumeMount` that are carried along. -/
def volumeMountRest : List Field := [
  .optional "mountPropagation" .text, .optional "recursiveReadOnly" .text,
  .optional "subPathExpr" .text]

def volumeMount : Shape := .record ([
  .required "mountPath" .text, .required "name" .text, .optional "readOnly" .flag,
  .optional "subPath" .text] ++ volumeMountRest)

/-- The members of `Container` that are carried along. -/
def containerRest : List Field := [
  .optional "envFrom" (.list envFromSource), .optional "lifecycle" lifecycle,
  .optional "livenessProbe" probe, .optional "readinessProbe" probe,
  .optional "resizePolicy" (.list containerResizePolicy), .optional "restartPolicy" .text,
  .optional "startupProbe" probe, .optional "stdin" .flag, .optional "stdinOnce" .flag,
  .optional "terminationMessagePath" .text, .optional "terminationMessagePolicy" .text,
  .optional "tty" .flag, .optional "volumeDevices" (.list volumeDevice),
  .optional "workingDir" .text]

def container : Shape := .record ([
  .optional "args" (.list .text), .optional "command" (.list .text), .optional "env" (.list envVar),
  .optional "image" .text, .optional "imagePullPolicy" .text, .required "name" .text,
  .optional "ports" (.list containerPort), .optional "resources" resourceRequirements,
  .optional "securityContext" securityContext, .optional "volumeMounts" (.list volumeMount)] ++
  containerRest)

def ephemeralContainer : Shape := .record [
  .optional "args" (.list .text), .optional "command" (.list .text), .optional "env" (.list envVar),
  .optional "envFrom" (.list envFromSource), .optional "image" .text,
  .optional "imagePullPolicy" .text, .optional "lifecycle" lifecycle,
  .optional "livenessProbe" probe, .required "name" .text, .optional "ports" (.list containerPort),
  .optional "readinessProbe" probe, .optional "resizePolicy" (.list containerResizePolicy),
  .optional "resources" resourceRequirements, .optional "restartPolicy" .text,
  .optional "securityContext" securityContext, .optional "startupProbe" probe,
  .optional "stdin" .flag, .optional "stdinOnce" .flag, .optional "targetContainerName" .text,
  .optional "terminationMessagePath" .text, .optional "terminationMessagePolicy" .text,
  .optional "tty" .flag, .optional "volumeDevices" (.list volumeDevice),
  .optional "volumeMounts" (.list volumeMount), .optional "workingDir" .text]

end GpuFleet.Kube.Catalog
