import GpuFleet.Number.Binary64

/-!
YAML values, with references replaced by what they stand for.
-/
namespace GpuFleet.Yaml

/-- A YAML number. -/
inductive Numeral where
  | int (value : Int)
  | real (value : Binary64)
  | infinity (negative : Bool)
  | notANumber
deriving DecidableEq, Repr

/-- Equal as keys of a mapping: the two zeros are one, and an integer is no fraction. -/
def Numeral.sameValue : Numeral → Numeral → Bool
  | .real x, .real y => x.sameValue y
  | m, n => m == n

inductive Value where
  | null
  | bool (value : Bool)
  | number (value : Numeral)
  | text (value : String)
  | sequence (items : List Value)
  | mapping (entries : List (Value × Value))
  | tagged (tag : String) (value : Value)

namespace Value

mutual

/-- Equal as keys of a mapping. The entries of a mapping have no order. -/
def same : Value → Value → Bool
  | .null, .null => true
  | .bool a, .bool b => a == b
  | .number m, .number n => m.sameValue n
  | .text s, .text t => s == t
  | .sequence items, .sequence others => sameItems items others
  | .mapping entries, .mapping others =>
    entries.length == others.length && sameEntries entries others
  | .tagged tag v, .tagged other w => tag == other && same v w
  | _, _ => false

def sameItems : List Value → List Value → Bool
  | [], others => others.isEmpty
  | v :: items, w :: others => same v w && sameItems items others
  | _ :: _, [] => false

/-- Every entry occurs among the others. -/
def sameEntries : List (Value × Value) → List (Value × Value) → Bool
  | [], _ => true
  | (k, v) :: entries, others =>
    others.any (fun (l, w) => same k l && same v w) && sameEntries entries others

end

/-- The value without its tags. -/
def untagged : Value → Value
  | .tagged _ v => untagged v
  | .null => .null
  | .bool b => .bool b
  | .number n => .number n
  | .text s => .text s
  | .sequence items => .sequence items
  | .mapping entries => .mapping entries

/-- The characters, if the value is a string. -/
def text? (v : Value) : Option String :=
  match v.untagged with
  | .text s => some s
  | _ => none

/-- The value of the entry with the key, if the value is a mapping and has one. -/
def get? (v : Value) (key : String) : Option Value :=
  match v.untagged with
  | .mapping entries => (entries.find? fun (k, _) => k.same (.text key)).map (·.2)
  | _ => none

def isNull (v : Value) : Bool := v.untagged matches .null

/-- No two entries have the same key. -/
def distinctKeys : List (Value × Value) → Bool
  | [] => true
  | (k, _) :: entries => entries.all (fun (l, _) => !k.same l) && distinctKeys entries

end Value

end GpuFleet.Yaml
