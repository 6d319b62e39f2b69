import GpuFleet.Json.Reader
import GpuFleet.Number.Width

/-!
Forms, by which the text of a response is read.
-/
namespace GpuFleet.Api

/-- How a text is read: which parts of it count, and what they say. -/
structure Form (α : Type) where
  extent : Json.Extent
  read : Json → Option α

namespace Form

/-- What a text says. -/
def ofText? (form : Form α) (text : String) : Option α :=
  (Json.parsePart? form.extent text).bind form.read

/-- Reads a text, but not for what it says. -/
def check? (form : Form α) (text : String) : Option Unit := (form.ofText? text).map fun _ => ()

/-- The form of an object with these members, which may also be the list of them. -/
def ofFields (fields : List (String × Json.Extent)) (read : Members → Option α) : Form α where
  extent := .record fields
  read := fun v => (v.placed? (fields.map (·.1))).bind read

end Form

/-- An unsigned number of so many bits. -/
def unsigned? (bits : Nat) (v : Json) : Option Nat := do
  let n ← v.nat?
  if Number.fitsUnsigned bits n then some n else none

end GpuFleet.Api
