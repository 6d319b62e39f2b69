import GpuFleet.Kube.DaemonSet
import GpuFleet.Drift.Extract

/-!
What of a DaemonSet is tracked for drift: exactly the fields whose change calls for a new apply. A
field that is unset is written as null, so that the sparse digest passes over it.
-/
namespace GpuFleet.Drift

/-- The tracked fields of a container. -/
structure ContainerFacts where
  name : String
  image : Option String
  imagePullPolicy : Option String
  command : Option (List String)
  args : Option (List String)
  env : Option (List EnvEntry)
  ports : Option (List (Kube.Part Kube.Catalog.containerPort))
  volumeMounts : Option (List MountEntry)
  resources : Option (Kube.Part Kube.Catalog.resourceRequirements)
  securityContext : Option (Kube.Part Kube.Catalog.securityContext)
deriving DecidableEq, Repr

/-- The value, or null where it is unset. -/
def orNull (write : α → Json) : Option α → Json
  | none => .null
  | some v => write v

namespace ContainerFacts

def ofContainer (c : Kube.Container) : ContainerFacts where
  name := c.name
  image := c.image
  imagePullPolicy := c.imagePullPolicy
  command := c.command
  args := c.args
  env := envEntries c.env
  ports := c.ports
  volumeMounts := mountEntries c.volumeMounts
  resources := c.resources
  securityContext := c.securityContext

def toJson (c : ContainerFacts) : Json :=
  .object [
    ("name", .string c.name),
    ("image", orNull .string c.image),
    ("imagePullPolicy", orNull .string c.imagePullPolicy),
    ("command", orNull Kube.textsToJson c.command),
    ("args", orNull Kube.textsToJson c.args),
    ("env", orNull (fun es => .array (es.map EnvEntry.toJson)) c.env),
    ("ports", orNull Kube.Part.listToJson c.ports),
    ("volumeMounts", orNull (fun ms => .array (ms.map MountEntry.toJson)) c.volumeMounts),
    ("resources", orNull Kube.Part.json c.resources),
    ("securityContext", orNull Kube.Part.json c.securityContext)]

end ContainerFacts

/-- The tracked fields of a DaemonSet. -/
structure Facts where
  name : String
  ns : Option String
  labels : Option Kube.Labels
  updateStrategy : Option (Kube.Part Kube.Catalog.daemonSetUpdateStrategy)
  templateLabels : Option Kube.Labels
  templateAnnotations : Option Kube.Labels
  nodeSelector : Option Kube.Labels
  affinity : Option (Kube.Part Kube.Catalog.affinity)
  tolerations : Option (List (Kube.Part Kube.Catalog.toleration))
  priorityClassName : Option String
  runtimeClassName : Option String
  serviceAccountName : Option String
  hostNetwork : Bool
  hostPid : Bool
  podSecurityContext : Option (Kube.Part Kube.Catalog.podSecurityContext)
  volumes : Option (List VolumeEntry)
  initContainers : Option (List ContainerFacts)
  containers : Option (List ContainerFacts)
deriving DecidableEq, Repr

/-- The facts of containers in their order; nothing where there are no containers. -/
def containerFacts : List Kube.Container → Option (List ContainerFacts)
  | [] => none
  | cs => some (cs.map ContainerFacts.ofContainer)

namespace Facts

def ofDaemonSet (d : Kube.DaemonSet) : Facts :=
  let template := d.spec.map (·.template)
  let templateMeta := template.bind (·.metadata)
  let pod := template.bind (·.spec)
  { name := d.metadata.name.getD ""
    ns := d.metadata.ns
    labels := d.metadata.labels
    updateStrategy := d.spec.bind (·.updateStrategy)
    templateLabels := templateMeta.bind (·.labels)
    templateAnnotations := templateMeta.bind (·.annotations)
    nodeSelector := pod.bind (·.nodeSelector)
    affinity := pod.bind (·.affinity)
    tolerations := pod.bind (·.tolerations)
    priorityClassName := pod.bind (·.priorityClassName)
    runtimeClassName := pod.bind (·.runtimeClassName)
    serviceAccountName := pod.bind (·.serviceAccountName)
    hostNetwork := (pod.bind (·.hostNetwork)).getD false
    hostPid := (pod.bind (·.hostPID)).getD false
    podSecurityContext := pod.bind (·.securityContext)
    volumes := volumeEntries (pod.bind (·.volumes))
    initContainers := (pod.bind (·.initContainers)).bind containerFacts
    containers := (pod.map (·.containers)).bind containerFacts }

/-- Every fact under its name. -/
def members (f : Facts) : Members := [
    ("name", .string f.name),
    ("namespace", orNull .string f.ns),
    ("labels", orNull Kube.Labels.toJson f.labels),
    ("updateStrategy", orNull Kube.Part.json f.updateStrategy),
    ("templateLabels", orNull Kube.Labels.toJson f.templateLabels),
    ("templateAnnotations", orNull Kube.Labels.toJson f.templateAnnotations),
    ("nodeSelector", orNull Kube.Labels.toJson f.nodeSelector),
    ("affinity", orNull Kube.Part.json f.affinity),
    ("tolerations", orNull Kube.Part.listToJson f.tolerations),
    ("priorityClassName", orNull .string f.priorityClassName),
    ("runtimeClassName", orNull .string f.runtimeClassName),
    ("serviceAccountName", orNull .string f.serviceAccountName),
    ("hostNetwork", .bool f.hostNetwork),
    ("hostPid", .bool f.hostPid),
    ("podSecurityContext", orNull Kube.Part.json f.podSecurityContext),
    ("volumes", orNull (fun vs => .array (vs.map VolumeEntry.toJson)) f.volumes),
    ("initContainers", orNull (fun cs => .array (cs.map ContainerFacts.toJson)) f.initContainers),
    ("containers", orNull (fun cs => .array (cs.map ContainerFacts.toJson)) f.containers)]

def toJson (f : Facts) : Json := .object f.members

end Facts

end GpuFleet.Drift
