import GpuFleet.Kube.Labels

/-!
Labels under revision. Every step notes whether it has changed anything, so that a node whose labels
are right as they are can be left alone.
-/
namespace GpuFleet.NodeLabels

open Kube (Labels)

structure Edit where
  labels : Labels
  changed : Bool := false
deriving DecidableEq

namespace Edit

/-- Sets a label, whatever its value was. A step that is only taken for a new value. -/
def set (e : Edit) (key value : String) : Edit := ⟨e.labels.insert key value, true⟩

/-- Takes a label away, if it is there. -/
def remove (e : Edit) (key : String) : Edit :=
  if key ∈ e.labels then ⟨e.labels.erase key, true⟩ else e

/-- Sets a label that is not there; a value that somebody has chosen stays. -/
def addMissing (e : Edit) (key value : String) : Edit :=
  if key ∈ e.labels then e else e.set key value

/-- Takes several labels away. -/
def removeAll (e : Edit) (keys : List String) : Edit := keys.foldl remove e

/-- Sets those of the labels that are not there. -/
def addAllMissing (e : Edit) (keys : List String) (value : String) : Edit :=
  keys.foldl (fun e key => e.addMissing key value) e

end Edit

end GpuFleet.NodeLabels
