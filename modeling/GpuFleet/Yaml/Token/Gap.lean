import GpuFleet.Yaml.Glyph

/-!
White space inside a scalar, and what becomes of it: blanks on one line stay, blanks around a break
are dropped, one break becomes a space, and of several breaks all but the first stay.
-/
namespace GpuFleet.Yaml

/-- The white space passed since the last character, the latest first. -/
inductive Gap where
  | none
  | blanks (passed : List Char)
  /-- The first break, unless a backslash has taken it out, and those after it. -/
  | breaks (first : Option Char) (more : List Char)
deriving DecidableEq, Repr

namespace Gap

/-- A blank or a break more. -/
def push (c : Char) : Gap → Gap
  | .none => if isBreak c then .breaks (some c) [] else .blanks [c]
  | .blanks passed => if isBreak c then .breaks (some c) [] else .blanks (c :: passed)
  | .breaks first more => .breaks first (if isBreak c then c :: more else more)

/-- A line has ended. -/
def hasBreak : Gap → Bool
  | .breaks _ _ => true
  | .none | .blanks _ => false

/-- What stays of the white space, before the characters done, the latest first. -/
def fold (done : List Char) : Gap → List Char
  | .none => done
  | .blanks passed => passed ++ done
  | .breaks (some '\n') [] => ' ' :: done
  | .breaks (some '\n') more => more ++ done
  | .breaks (some c) more => more ++ c :: done
  | .breaks .none more => more ++ done

end Gap

end GpuFleet.Yaml
