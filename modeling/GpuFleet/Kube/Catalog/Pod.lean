import GpuFleet.Kube.Catalog.Container

/-!
The shapes of pod specifications and pod templates.
-/
namespace GpuFleet.Kube.Catalog

def nodeSelectorRequirement : Shape := .record [
  .required "key" .text, .required "operator" .text, .optional "values" (.list .text)]

def nodeSelectorTerm : Shape := .record [
  .optional "matchExpressions" (.list nodeSelectorRequirement),
  .optional "matchFields" (.list nodeSelectorRequirement)]

def preferredSchedulingTerm : Shape := .record [
  .required "preference" nodeSelectorTerm, .required "weight" .int32]

def nodeSelector : Shape := .record [.required "nodeSelectorTerms" (.list nodeSelectorTerm)]

def nodeAffinity : Shape := .record [
  .optional "preferredDuringSchedulingIgnoredDuringExecution" (.list preferredSchedulingTerm),
  .optional "requiredDuringSchedulingIgnoredDuringExecution" nodeSelector]

def podAffinityTerm : Shape := .record [
  .optional "labelSelector" labelSelector, .optional "matchLabelKeys" (.list .text),
  .optional "mismatchLabelKeys" (.list .text), .optional "namespaceSelector" labelSelector,
  .optional "namespaces" (.list .text), .required "topologyKey" .text]

def weightedPodAffinityTerm : Shape := .record [
  .required "podAffinityTerm" podAffinityTerm, .required "weight" .int32]

def podAffinity : Shape := .record [
  .optional "preferredDuringSchedulingIgnoredDuringExecution" (.list weightedPodAffinityTerm),
  .optional "requiredDuringSchedulingIgnoredDuringExecution" (.list podAffinityTerm)]

def podAntiAffinity : Shape := .record [
  .optional "preferredDuringSchedulingIgnoredDuringExecution" (.list weightedPodAffinityTerm),
  .optional "requiredDuringSchedulingIgnoredDuringExecution" (.list podAffinityTerm)]

def affinity : Shape := .record [
  .optional "nodeAffinity" nodeAffinity, .optional "podAffinity" podAffinity,
  .optional "podAntiAffinity" podAntiAffinity]

def podDNSConfigOption : Shape := .record [.optional "name" .text, .optional "value" .text]

def podDNSConfig : Shape := .record [
  .optional "nameservers" (.list .text), .optional "options" (.list podDNSConfigOption),
  .optional "searches" (.list .text)]

def hostAlias : Shape := .record [.optional "hostnames" (.list .text), .required "ip" .text]

def podOS : Shape := .record [.required "name" .text]

def podReadinessGate : Shape := .record [.required "conditionType" .text]

def claimSource : Shape := .record [
  .optional "resourceClaimName" .text, .optional "resourceClaimTemplateName" .text]

def podResourceClaim : Shape := .record [.required "name" .text, .optional "source" claimSource]

def podSchedulingGate : Shape := .record [.required "name" .text]

def sysctl : Shape := .record [.required "name" .text, .required "value" .text]

def podSecurityContext : Shape := .record [
  .optional "appArmorProfile" appArmorProfile, .optional "fsGroup" .int64,
  .optional "fsGroupChangePolicy" .text, .optional "runAsGroup" .int64,
  .optional "runAsNonRoot" .flag, .optional "runAsUser" .int64,
  .optional "seLinuxOptions" seLinuxOptions, .optional "seccompProfile" seccompProfile,
  .optional "supplementalGroups" (.list .int64), .optional "sysctls" (.list sysctl),
  .optional "windowsOptions" windowsSecurityContextOptions]

def toleration : Shape := .record [
  .optional "effect" .text, .optional "key" .text, .optional "operator" .text,
  .optional "tolerationSeconds" .int64, .optional "value" .text]

def topologySpreadConstraint : Shape := .record [
  .optional "labelSelector" labelSelector, .optional "matchLabelKeys" (.list .text),
  .required "maxSkew" .int32, .optional "minDomains" .int32, .optional "nodeAffinityPolicy" .text,
  .optional "nodeTaintsPolicy" .text, .required "topologyKey" .text,
  .required "whenUnsatisfiable" .text]

/-- The members of `PodSpec` that are carried along. -/
def podSpecRest : List Field := [
  .optional "activeDeadlineSeconds" .int64, .optional "automountServiceAccountToken" .flag,
  .optional "dnsConfig" podDNSConfig, .optional "dnsPolicy" .text,
  .optional "enableServiceLinks" .flag, .optional "ephemeralContainers" (.list ephemeralContainer),
  .optional "hostAliases" (.list hostAlias), .optional "hostIPC" .flag, .optional "hostUsers" .flag,
  .optional "hostname" .text, .optional "imagePullSecrets" (.list localObjectReference),
  .optional "nodeName" .text, .optional "os" podOS, .optional "overhead" (.dict .quantity),
  .optional "preemptionPolicy" .text, .optional "priority" .int32,
  .optional "readinessGates" (.list podReadinessGate),
  .optional "resourceClaims" (.list podResourceClaim), .optional "restartPolicy" .text,
  .optional "schedulerName" .text, .optional "schedulingGates" (.list podSchedulingGate),
  .optional "serviceAccount" .text, .optional "setHostnameAsFQDN" .flag,
  .optional "shareProcessNamespace" .flag, .optional "subdomain" .text,
  .optional "terminationGracePeriodSeconds" .int64,
  .optional "topologySpreadConstraints" (.list topologySpreadConstraint)]

def podSpec : Shape := .record ([
  .optional "affinity" affinity, .required "containers" (.list container),
  .optional "hostNetwork" .flag, .optional "hostPID" .flag,
  .optional "initContainers" (.list container), .optional "nodeSelector" (.dict .text),
  .optional "priorityClassName" .text, .optional "runtimeClassName" .text,
  .optional "securityContext" podSecurityContext, .optional "serviceAccountName" .text,
  .optional "tolerations" (.list toleration), .optional "volumes" (.list volume)] ++ podSpecRest)

def podTemplateSpec : Shape := .record [.optional "metadata" objectMeta, .optional "spec" podSpec]

end GpuFleet.Kube.Catalog
