import GpuFleet.Kube.Container
import GpuFleet.Kube.Volume

/-!
The parts of environments, mounts and volumes in which a change counts as drift, in an order of
their own, so that a manifest may list them in any order. Absent and empty lists have no parts.
-/
namespace GpuFleet.Drift

/-- A variable with a literal value. -/
structure EnvEntry where
  name : String
  value : String
deriving DecidableEq, Repr

/-- Where a volume is mounted, and how. -/
structure MountEntry where
  name : String
  mountPath : String
  subPath : String
  readOnly : Bool
deriving DecidableEq, Repr

/-- A volume by its name, and its origin if that is one of the three kinds looked at. -/
structure VolumeEntry where
  name : String
  hostPath : Option String := none
  configMapName : Option String := none
  secretName : Option String := none
deriving DecidableEq, Repr

/-- Pairs of strings in lexicographic order. -/
def lexLe (a b : String × String) : Bool := a.1 < b.1 || (a.1 == b.1 && a.2 ≤ b.2)

namespace EnvEntry

def le (a b : EnvEntry) : Bool := lexLe (a.name, a.value) (b.name, b.value)

/-- The entries by name, those of one name by value. -/
def sort (entries : List EnvEntry) : List EnvEntry := entries.mergeSort le

/-- The entry of a variable with a value of its own; an unset value is empty. -/
def ofVar? (e : Kube.EnvVar) : Option EnvEntry :=
  if e.valueFrom.isNone then some ⟨e.name, e.value.getD ""⟩ else none

def toJson (e : EnvEntry) : Json := .object [("name", .string e.name), ("value", .string e.value)]

/-- Reads an entry; both members are strings. -/
def ofJson? (v : Json) : Option EnvEntry := do
  let m ← v.object?
  some ⟨← m.need? Json.string? "name", ← m.need? Json.string? "value"⟩

end EnvEntry

/-- The literal variables of an environment, sorted; nothing where there are none. A variable that
takes its value from elsewhere is left out: that value is no part of the pod template. -/
def envEntries (env : Option (List Kube.EnvVar)) : Option (List EnvEntry) := do
  match (← env).filterMap EnvEntry.ofVar? with
  | [] => none
  | entries => some (EnvEntry.sort entries)

namespace MountEntry

def le (a b : MountEntry) : Bool := lexLe (a.name, a.mountPath) (b.name, b.mountPath)

def ofMount (m : Kube.VolumeMount) : MountEntry :=
  ⟨m.name, m.mountPath, m.subPath.getD "", m.readOnly.getD false⟩

def toJson (m : MountEntry) : Json :=
  .object [("name", .string m.name), ("mountPath", .string m.mountPath),
    ("subPath", .string m.subPath), ("readOnly", .bool m.readOnly)]

end MountEntry

/-- The mounts by name and then by path; mounts that agree in both stay in their order. -/
def mountEntries (mounts : Option (List Kube.VolumeMount)) : Option (List MountEntry) := do
  match ← mounts with
  | [] => none
  | ms => some ((ms.map MountEntry.ofMount).mergeSort MountEntry.le)

namespace VolumeEntry

def le (a b : VolumeEntry) : Bool := a.name ≤ b.name

/-- A name that says something. -/
def nonEmpty (s : String) : Option String := if s.isEmpty then none else some s

/-- A host path goes before a ConfigMap, and that before a Secret. -/
def ofVolume (v : Kube.Volume) : VolumeEntry :=
  match v.hostPath, v.configMap, v.secret with
  | some h, _, _ => { name := v.name, hostPath := some h.path }
  | none, some c, _ => { name := v.name, configMapName := nonEmpty c.name }
  | none, none, some s => { name := v.name, secretName := s.secretName.bind nonEmpty }
  | none, none, none => { name := v.name }

def toJson (v : VolumeEntry) : Json :=
  .object (("name", .string v.name) :: Members.put? "hostPath" .string v.hostPath
    ++ Members.put? "configMapName" .string v.configMapName
    ++ Members.put? "secretName" .string v.secretName)

end VolumeEntry

/-- The volumes by name; volumes of one name stay in their order. -/
def volumeEntries (volumes : Option (List Kube.Volume)) : Option (List VolumeEntry) := do
  match ← volumes with
  | [] => none
  | vs => some ((vs.map VolumeEntry.ofVolume).mergeSort VolumeEntry.le)

end GpuFleet.Drift
