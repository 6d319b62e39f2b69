import GpuFleet.Json.Basic
import GpuFleet.Number.Digits

/-!
JSON pointers: a path into a value, written as reference tokens that each follow a slash. In a token
`~1` stands for a slash and `~0` for a tilde.
-/
namespace GpuFleet.Json

/-- The token with its escapes undone. -/
def unescapeToken : List Char → List Char
  | '~' :: '1' :: rest => '/' :: unescapeToken rest
  | '~' :: '0' :: rest => '~' :: unescapeToken rest
  | c :: rest => c :: unescapeToken rest
  | [] => []

/-- The tokens of a pointer: none for the empty one, which points at the whole value. -/
def pointerTokens? (pointer : String) : Option (List String) :=
  match pointer.toList with
  | [] => some []
  | '/' :: rest =>
    some ((rest.splitOn '/').map fun token => String.ofList (unescapeToken token))
  | _ => none

/-- An array index: decimal digits without a sign or a leading zero. -/
def arrayIndex? (token : String) : Option Nat :=
  match token.toList with
  | [] => none
  | ['0'] => some 0
  | '0' :: _ => none
  | cs => if cs.all Char.isDigit then some (Number.digitsValue cs) else none

/-- One step down. -/
def child? (v : Json) (token : String) : Option Json :=
  match v with
  | .object members => members.lookup token
  | .array items => do items[← arrayIndex? token]?
  | _ => none

/-- The value that the pointer leads to. -/
def pointer? (v : Json) (pointer : String) : Option Json := do
  (← pointerTokens? pointer).foldlM child? v

end GpuFleet.Json
