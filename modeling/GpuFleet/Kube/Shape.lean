import GpuFleet.Json.Fields
import GpuFleet.Json.Raw
import GpuFleet.Json.Text
import GpuFleet.Number.Width
import GpuFleet.Time.Rfc3339

/-!
Shapes of typed Kubernetes objects, and the normal form of a JSON value at a shape.

At a record, members that the shape does not know are dropped, an absent or null member is unset,
and a required member that is unset takes the zero value of its shape; what remains is written in
the order of the shape. So two values have one normal form exactly if they say the same typed
object.
-/
namespace GpuFleet.Kube

mutual

/-- What may stand at a place of a typed object. -/
inductive Shape where
  | text
  | flag
  | int32
  | int64
  /-- A 32-bit integer or a string. -/
  | intOrText
  /-- An amount of a resource: a string, or an integer as its decimal digits. -/
  | quantity
  /-- A time in whole seconds. -/
  | moment
  /-- Any JSON value. -/
  | any
  | list (item : Shape)
  /-- A map from strings. -/
  | dict (value : Shape)
  | record (fields : List Field)

/-- A member of a record. -/
inductive Field where
  | optional (name : String) (shape : Shape)
  | required (name : String) (shape : Shape)

end

namespace Field

def name : Field → String
  | optional n _ | required n _ => n

end Field

namespace Shape

mutual

/-- The zero value, which stands for a required member that is unset. -/
def zero : Shape → Json
  | .text | .quantity | .moment => .string ""
  | .flag => .bool false
  | .int32 | .int64 | .intOrText => .int 0
  | .any => .null
  | .list _ => .array []
  | .dict _ => .object []
  | .record fields => .object (zeroMembers fields)

def zeroMembers : List Field → List (String × Json)
  | [] => []
  | .optional _ _ :: fields => zeroMembers fields
  | .required name shape :: fields => (name, zero shape) :: zeroMembers fields

end

/-- The integer, if the value is one of so many bits with the sign. -/
def signed? (bits : Nat) (v : Json) : Option Json := do
  let n ← v.int?
  if Number.fitsSigned bits n then some v else none

def intOrText? (v : Json) : Option Json :=
  match v with
  | .string _ => some v
  | _ => signed? 32 v

def quantity? : Json → Option Json
  | .string s => some (.string s)
  | .number (.int n) => some (.string (toString n))
  | _ => none

def moment? (v : Json) : Option Json := do
  some (.string (← Instant.parse? (← v.string?)).wholeSecondText)

/-- The members ascending by name. Of several with one name the last stays. -/
def sortMembers (members : Members) : Members :=
  members.foldl (fun done (k, v) => Json.insertSorted k v done) []

mutual

/-- The normal form of a value at a shape; nothing where the value does not fit. -/
def normal? : Shape → Json → Option Json
  | .text => fun v => v.string?.map .string
  | .flag => fun v => v.bool?.map .bool
  | .int32 => signed? 32
  | .int64 => signed? 64
  | .intOrText => intOrText?
  | .quantity => quantity?
  | .moment => moment?
  | .any => some
  | .list item => fun v => do
    some (.array (← (← v.array?).mapM (normal? item)))
  | .dict value => fun v => do
    let members ← (← v.object?).mapM fun (k, w) => (normal? value w).map fun w => (k, w)
    some (.object (sortMembers members))
  | .record fields => fun v => do
    some (.object (← normalMembers? fields (← v.object?)))

/-- The normal form of the members that a record knows. -/
def normalMembers? : List Field → Members → Option Members
  | [] => fun _ => some []
  | .optional name shape :: fields => fun members => do
    let v ← members.lenient? (normal? shape) name
    some (Members.opt name v ++ (← normalMembers? fields members))
  | .required name shape :: fields => fun members => do
    let v ← members.lenientD (normal? shape) (zero shape) name
    some ((name, v) :: (← normalMembers? fields members))

end

mutual

/-- The parts of a value that a typed object has. -/
def extent : Shape → Json.Extent
  | .list item => .list (extent item)
  | .dict value => .dict (extent value)
  | .record fields => .record (fieldExtents fields)
  | .text | .flag | .int32 | .int64 | .intOrText | .quantity | .moment | .any => .whole

def fieldExtents : List Field → List (String × Json.Extent)
  | [] => []
  | .optional name shape :: fields | .required name shape :: fields =>
    (name, extent shape) :: fieldExtents fields

end

end Shape

/-- A part of a typed object: a JSON value in normal form at its shape. Two parts are equal exactly
if they say the same. -/
structure Part (shape : Shape) where
  json : Json
  isNormal : ∃ v, shape.normal? v = some json
deriving DecidableEq, Repr

namespace Part

/-- The part that a value says, if it fits. -/
def ofJson? (shape : Shape) (v : Json) : Option (Part shape) :=
  match h : shape.normal? v with
  | some w => some ⟨w, v, h⟩
  | none => none

def listToJson {shape : Shape} (ps : List (Part shape)) : Json := .array (ps.map json)

end Part

end GpuFleet.Kube
