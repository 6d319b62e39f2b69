import GpuFleet.Kube.DaemonSet
import GpuFleet.Yaml.Document

/-!
Typed objects from YAML values. At a place whose shape is known, a YAML value is turned into the
JSON value that says the same there: tags are dropped, a null in the place of a list, a map or an
object is an empty one, and members that the shape does not know are left out. Keys have to be
strings; those that only their tags tell apart give several members of one name.
-/
namespace GpuFleet.Kube.Shape

open Yaml (Value Numeral)

/-- A number as JSON has it; a fraction that is not finite is null. -/
def jsonOfNumeral : Numeral → Json
  | .int n => .int n
  | .real x => .number (.real x)
  | .infinity _ | .notANumber => .null

mutual

/-- A value of no known shape. Its keys are strings, and only they may have tags. -/
def jsonOfYaml? : Value → Option Json
  | .null => some .null
  | .bool b => some (.bool b)
  | .number n => some (jsonOfNumeral n)
  | .text s => some (.string s)
  | .sequence items => (jsonOfItems? items).map .array
  | .mapping entries => (jsonOfEntries? [] entries).map .object
  | .tagged _ _ => none

def jsonOfItems? : List Value → Option (List Json)
  | [] => some []
  | v :: items => do
    let v ← jsonOfYaml? v
    some (v :: (← jsonOfItems? items))

/-- The entries added to the members `done`. -/
def jsonOfEntries? (done : Members) : List (Value × Value) → Option Members
  | [] => some done
  | (k, v) :: entries => do
    let key ← k.text?
    let v ← jsonOfYaml? v
    jsonOfEntries? (done.put key v) entries

end

/-- The items of a list; a null has none. -/
def yamlItems? (v : Value) : Option (List Value) :=
  match v.untagged with
  | .sequence items => some items
  | .null => some []
  | _ => none

/-- The entries of a map by their keys; a null has none. -/
def yamlEntries? (v : Value) : Option (List (String × Value)) :=
  match v.untagged with
  | .mapping entries => entries.mapM fun (k, w) => k.text?.map fun k => (k, w)
  | .null => some []
  | _ => none

/-- A string or an integer that has no tag. -/
def scalarOfYaml? : Value → Option Json
  | .text s => some (.string s)
  | .number (.int n) => some (.int n)
  | _ => none

mutual

/-- The JSON value that a YAML value stands for at a shape. -/
def ofYaml? : Shape → Value → Option Json
  | .text | .moment => fun v => v.text?.map .string
  | .flag => fun v =>
    match v.untagged with
    | .bool b => some (.bool b)
    | _ => none
  | .int32 | .int64 => fun v =>
    match v.untagged with
    | .number (.int n) => some (.int n)
    | _ => none
  | .intOrText | .quantity => scalarOfYaml?
  | .any => jsonOfYaml?
  | .list item => fun v => do
    some (.array (← (← yamlItems? v).mapM (ofYaml? item)))
  | .dict value => fun v => do
    let members ← (← yamlEntries? v).mapM fun (k, w) => (ofYaml? value w).map fun w => (k, w)
    some (.object members)
  | .record fields => fun v => do
    some (.object (← membersOfYaml? fields (← yamlEntries? v)))

/-- The members that a record knows, each of them as often as it is there. A null stays, since it
says that a member is unset. -/
def membersOfYaml? : List Field → List (String × Value) → Option Members
  | [] => fun _ => some []
  | .optional name shape :: fields | .required name shape :: fields => fun entries => do
    let members ← (entries.filter (·.1 = name)).mapM fun (_, v) =>
      match v with
      | .null => some (name, Json.null)
      | v => (ofYaml? shape v).map fun w => (name, w)
    some (members ++ (← membersOfYaml? fields entries))

end

end GpuFleet.Kube.Shape

namespace GpuFleet.Kube.DaemonSet

/-- The DaemonSet that a YAML value describes. -/
def ofYaml? (v : Yaml.Value) : Option DaemonSet := do
  ofJson? (← Catalog.daemonSet.ofYaml? v)

end GpuFleet.Kube.DaemonSet
