import GpuFleet.Kube.Shape

/-!
The shapes of object metadata, selectors and references (Kubernetes 1.30).
-/
namespace GpuFleet.Kube.Catalog

def managedFieldsEntry : Shape := .record [
  .optional "apiVersion" .text, .optional "fieldsType" .text, .optional "fieldsV1" .any,
  .optional "manager" .text, .optional "operation" .text, .optional "subresource" .text,
  .optional "time" .moment]

def ownerReference : Shape := .record [
  .required "apiVersion" .text, .optional "blockOwnerDeletion" .flag, .optional "controller" .flag,
  .required "kind" .text, .required "name" .text, .required "uid" .text]

/-- The members of `ObjectMeta` that are carried along. -/
def objectMetaRest : List Field := [
  .optional "deletionGracePeriodSeconds" .int64, .optional "deletionTimestamp" .moment,
  .optional "finalizers" (.list .text), .optional "generateName" .text,
  .optional "generation" .int64, .optional "managedFields" (.list managedFieldsEntry),
  .optional "ownerReferences" (.list ownerReference), .optional "resourceVersion" .text,
  .optional "selfLink" .text, .optional "uid" .text]

def objectMeta : Shape := .record ([
  .optional "annotations" (.dict .text), .optional "creationTimestamp" .moment,
  .optional "labels" (.dict .text), .optional "name" .text, .optional "namespace" .text] ++
  objectMetaRest)

def labelSelectorRequirement : Shape := .record [
  .required "key" .text, .required "operator" .text, .optional "values" (.list .text)]

def labelSelector : Shape := .record [
  .optional "matchExpressions" (.list labelSelectorRequirement),
  .optional "matchLabels" (.dict .text)]

def localObjectReference : Shape := .record [.required "name" .text]

end GpuFleet.Kube.Catalog
