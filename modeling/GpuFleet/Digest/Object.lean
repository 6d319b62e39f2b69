import GpuFleet.Digest.Fnv
import GpuFleet.Json.Text

/-!
Digests of JSON values. The full digest is that of the canonical text. The sparse digest of an
object leaves out the members that are effectively zero, so that a member which an older writer did
not know, or left at its zero value, does not change it.
-/
namespace GpuFleet.Digest

/-- Why a value has no digest. -/
inductive DigestError where
  /-- Only the members of an object can be left out. -/
  | notAnObject (value : Json)
  /-- A key that is no scalar names no member. -/
  | keyNotText
deriving DecidableEq, Repr

def DigestError.message : DigestError → String
  | .notAnObject v => s!"sparse hashing requires a struct-like value, got: {v.canonical}"
  | .keyNotText => "object is not hashable: key must be a string"

/-- The zero value of some type, or an empty collection; a collection with an entry is not zero,
whatever the entry. -/
def isZero : Json → Bool
  | .null => true
  | .bool b => !b
  | .number (.int n) => n == 0
  | .number (.real x) => x.isZero
  | .string s => s.isEmpty
  | .array items => items.isEmpty
  | .object members => members.isEmpty

/-- The digest of every part of the value. -/
def full (v : Json) : String := decimal (ofText v.canonical)

/-- Name, colon and compact text of each member that is not zero, one after another, before
`rest`. -/
def writeSparse (rest : List Char) : List (String × Json) → List Char
  | [] => rest
  | (k, v) :: members =>
    if isZero v then writeSparse rest members
    else k.toList ++ ':' :: v.write (writeSparse rest members)

/-- The text that the sparse digest of an object is made from: its members ascending by name. -/
def sparseText (members : Members) : String :=
  String.ofList (writeSparse [] (Json.sortedMembers members))

/-- The digest of the members that are not zero. -/
def sparse : Json → Except DigestError String
  | .object members => .ok (decimal (ofText (sparseText members)))
  | v => .error (.notAnObject v)

/-- The text of a scalar used as a member's name. -/
def keyText? : Json → Option String
  | .string s => some s
  | .bool b => some (if b then "true" else "false")
  | .number n => some (String.ofList n.chars)
  | .null | .array _ | .object _ => none

/-- The object of a map's entries: of equal names the last value counts. -/
def ofEntries (entries : List (Json × Json)) : Except DigestError Json := do
  let members ← entries.foldlM (fun (members : Members) (k, v) =>
    match keyText? k with
    | some key => .ok (members.put key v)
    | none => .error DigestError.keyNotText) []
  return .object members

end GpuFleet.Digest
