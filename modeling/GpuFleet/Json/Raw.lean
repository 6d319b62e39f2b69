import GpuFleet.Json.Basic

/-!
JSON as a text has it: members as often as they are written, and holes where a literal has the form
of a number or a string but no value. Reading turns it into a JSON value as far as a reader asks for
one. What the reader passes over only has to be well-formed, and may be as deep as it likes.
-/
namespace GpuFleet

inductive RawJson where
  | null
  | bool (value : Bool)
  /-- No value where the number lies beyond the finite range. -/
  | number (value : Option Number)
  /-- No value where an escape is half of a pair. -/
  | string (value : Option String)
  | array (items : List RawJson)
  | object (members : List (Option String × RawJson))
deriving Repr, Inhabited

namespace Json

/-- Which parts of a value a reader asks for. -/
inductive Extent where
  /-- All of it. Of several members of one name the last value stays, in the place of the first. -/
  | whole
  | list (item : Extent)
  /-- An object with members of any name, as often as they are written. -/
  | dict (value : Extent)
  /-- The members of an object that have these names, as often as they are written. -/
  | record (fields : List (String × Extent))
  /-- All members of an object, as often as they are written. -/
  | openRecord (fields : List (String × Extent))

namespace Extent

/-- The extent of an item of an array. One in place of a record gives its members in their order. -/
def item (index : Nat) : Extent → Extent
  | .list e => e
  | .record fields => (fields[index]?.map (·.2)).getD .whole
  | .whole | .dict _ | .openRecord _ => .whole

/-- The extent of a member of an object; nothing where it is passed over. -/
def member? (key : String) : Extent → Option Extent
  | .whole | .list _ => some .whole
  | .dict e => some e
  | .record fields => fields.lookup key
  | .openRecord fields => some ((fields.lookup key).getD .whole)

/-- The members that were read, as often as the extent asks for them. -/
def settle (members : Members) : Extent → Members
  | .whole | .list _ => members.foldl (fun done (k, v) => done.put k v) []
  | .dict _ | .record _ | .openRecord _ => members

end Extent

end Json

namespace RawJson

/-- Arrays and objects that are read may lie inside one another this deep. -/
def maxDepth : Nat := 127

mutual

/-- The value of the parts that are asked for; nothing where a literal among them has none, or where
they are deeper than `depth`. Every name of an object that is read needs a value. -/
def read? (extent : Json.Extent) (depth : Nat) : RawJson → Option Json
  | .null => some .null
  | .bool b => some (.bool b)
  | .number n => n.map .number
  | .string s => s.map .string
  | .array items =>
    match depth with
    | 0 => none
    | depth + 1 => do some (.array (← readItems? extent depth 0 items))
  | .object members =>
    match depth with
    | 0 => none
    | depth + 1 => do some (.object (extent.settle (← readMembers? extent depth members)))

/-- The items from an index on. -/
def readItems? (extent : Json.Extent) (depth index : Nat) : List RawJson → Option (List Json)
  | [] => some []
  | v :: items => do
    let v ← read? (extent.item index) depth v
    some (v :: (← readItems? extent depth (index + 1) items))

def readMembers? (extent : Json.Extent) (depth : Nat) :
    List (Option String × RawJson) → Option Members
  | [] => some []
  | (key, v) :: members => do
    let key ← key
    match extent.member? key with
    | none => readMembers? extent depth members
    | some e =>
      let v ← read? e depth v
      some ((key, v) :: (← readMembers? extent depth members))

end

end RawJson

end GpuFleet
