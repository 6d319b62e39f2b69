import GpuFleet.Kube.DaemonSet
import GpuFleet.Operand.Basic
import GpuFleet.Policy.Spec

/-!
Rendering: a manifest made ready for the cluster at hand. It gets the operator's namespace, two
labels by which it is known as the operator's, the image and the variables of its component, and the
name of the container runtime.
-/
namespace GpuFleet.Manifest

open Kube (EnvVar Container DaemonSet PodSpec)

/-- The variable that tells every container the container runtime. -/
def runtimeVariable : String := "RUNTIME"

/-- The label of the objects that the operator manages. -/
def managedByKey : String := "app.kubernetes.io/managed-by"

def managedByValue : String := "gpu-operator"

/-- The label that says which operand an object belongs to. -/
def operandKey : String := "nvidia.com/gpu-operator.state"

/-- What rendering fills in. -/
structure Context where
  ns : String
  runtime : Policy.Runtime
  /-- The settings of the operand's component, if it has one. -/
  component : Option Policy.ComponentSpec

/-- The environment with a variable set: the first of its name, or else a new one at the end. -/
def setVariable (name value : String) : List EnvVar → List EnvVar
  | [] => [{ name, value := some value }]
  | e :: rest =>
    if e.name = name then { e with value := some value, valueFrom := none } :: rest
    else e :: setVariable name value rest

/-- The container with a variable set. -/
def withVariable (name value : String) (c : Container) : Container :=
  { c with env := some (setVariable name value (c.env.getD [])) }

/-- The list with its first item put through `f`. -/
def mapFirst (f : α → α) : List α → List α
  | [] => []
  | x :: xs => f x :: xs

/-- The main container with the image and the variables of its component. -/
def withComponent (component : Policy.ComponentSpec) (c : Container) : Container :=
  let c := match component.imagePath with
    | some image => { c with image := some image }
    | none => c
  (component.env.getD []).foldl (fun c e => withVariable e.name e.value c) c

/-- The pod with the settings of its component in the main container, which is the first one, and
the runtime in every container. -/
def renderPod (ctx : Context) (pod : PodSpec) : PodSpec :=
  let withRuntime := withVariable runtimeVariable ctx.runtime.name
  let containers := match ctx.component with
    | some component => mapFirst (withComponent component) pod.containers
    | none => pod.containers
  { pod with
    containers := containers.map withRuntime
    initContainers := pod.initContainers.map (·.map withRuntime) }

/-- The metadata of an object of the operator. -/
def renderMeta (operand : Operand) (ns : String) (m : Kube.ObjectMeta) : Kube.ObjectMeta :=
  { m with
    ns := some ns
    labels :=
      some ((m.labelMap.insert managedByKey managedByValue).insert operandKey operand.name) }

/-- The DaemonSet of an operand as it is applied. -/
def render (operand : Operand) (ctx : Context) (d : DaemonSet) : DaemonSet :=
  { d with metadata := renderMeta operand ctx.ns d.metadata }.mapPod (renderPod ctx)

end GpuFleet.Manifest
