import GpuFleet.Json.Basic
import Std.Data.ExtTreeMap

/-!
Labels and annotations: finite maps from strings to strings. Two maps are equal exactly if they hold
the same keys with the same values, and they are listed in the order of their keys.
-/
namespace GpuFleet.Kube

abbrev Labels := Std.ExtTreeMap String String

namespace Labels

/-- The map with the value of `key` set, or without `key` where there is no value. -/
def alterTo (labels : Labels) (key : String) : Option String → Labels
  | some v => labels.insert key v
  | none => labels.erase key

theorem getElem?_alterTo (labels : Labels) (key l : String) (v : Option String) :
    (labels.alterTo key v)[l]? = if key = l then v else labels[l]? := by
  cases v <;> by_cases h : key = l <;>
    simp [alterTo, Std.ExtTreeMap.getElem?_insert, Std.ExtTreeMap.getElem?_erase, h]

/-- The map that an object of strings writes. -/
def ofJson? (v : Json) : Option Labels := do
  (← v.object?).foldlM (fun labels (k, w) => do some (labels.insert k (← w.string?)))
    (∅ : Labels)

def toJson (labels : Labels) : Json :=
  .object (labels.toList.map fun (k, v) => (k, .string v))

end Labels

end GpuFleet.Kube
