import GpuFleet.Json.Reader
import GpuFleet.Number.Width
import GpuFleet.Yaml.Tag
import GpuFleet.Yaml.Value

/-!
What a scalar stands for. Without quotes and without a tag, a text that has the form of a null, a
truth value or a number is one; every other text is a string.

Digits behind a leading zero are a string, as are numbers of other notations; so `0644`, `1_000` and
`10%` are strings, while `0x1F`, `0o17` and `.5` are numbers.
-/
namespace GpuFleet.Yaml

def isNullText (s : String) : Bool := ["null", "Null", "NULL", "~"].contains s

def boolOfText? (s : String) : Option Bool :=
  if ["true", "True", "TRUE"].contains s then some true
  else if ["false", "False", "FALSE"].contains s then some false
  else none

/-- The value of digits in a base; nothing for no digit at all, or one that the base lacks. -/
def digitsIn? (base : Nat) (cs : List Char) : Option Nat :=
  if cs = [] then none
  else cs.foldlM (fun n c => do
    let d ← Number.hexValue? c
    if d < base then some (n * base + d) else none) 0

/-- The sign is a plus sign or a minus sign. -/
def isSign (c : Char) : Bool := c == '+' || c == '-'

/-- A zero and then nothing but digits: a string by its looks a number. -/
def isZeroPadded (cs : List Char) : Bool :=
  let cs := match cs with
    | c :: rest => if isSign c then rest else c :: rest
    | [] => []
  match cs with
  | '0' :: d :: rest => (d :: rest).all Char.isDigit
  | _ => false

/-- Digits behind the letter of their base, without a sign. -/
def basedDigits? : List Char → Option Nat
  | '0' :: 'x' :: cs => digitsIn? 16 cs
  | '0' :: 'o' :: cs => digitsIn? 8 cs
  | '0' :: 'b' :: cs => digitsIn? 2 cs
  | _ => none

/-- An integer: a sign or none, then decimal digits, or those of another base behind its letter. -/
def intOfText? (cs : List Char) : Option Int :=
  let (negative, digits) : Bool × List Char := match cs with
    | '-' :: ds => (true, ds)
    | '+' :: ds => (false, ds)
    | ds => (false, ds)
  let magnitude := (basedDigits? digits).or (if isZeroPadded cs then none else digitsIn? 10 digits)
  magnitude.map fun n => if negative then -(n : Int) else n

/-- A fraction: digits with a point among them or around them, and an exponent; one of either is
enough. Nothing beyond the finite range. -/
def realOfText? (negative : Bool) (cs : List Char) : Option Binary64 := do
  let (whole, rest) := cs.span Char.isDigit
  let (fraction, rest) := match rest with
    | '.' :: rest => rest.span Char.isDigit
    | rest => ([], rest)
  if whole = [] ∧ fraction = [] then none
  else
    let (exponent, rest) ← Json.readExponent rest
    let scale := (exponent.map (·.value)).getD 0 - fraction.length
    if rest ≠ [] then none
    else Binary64.ofDecimal? negative (Number.digitsValue (whole ++ fraction)) scale

/-- A fraction with a sign or without, an infinity, or not a number. -/
def numeralOfText? (cs : List Char) : Option Numeral :=
  let (negative, digits) : Bool × List Char := match cs with
    | '-' :: ds => (true, ds)
    | '+' :: ds => (false, ds)
    | ds => (false, ds)
  if [".inf", ".Inf", ".INF"].contains (String.ofList digits) then some (.infinity negative)
  else if [".nan", ".NaN", ".NAN"].contains (String.ofList cs) then some .notANumber
  else (realOfText? negative digits).map .real

namespace Value

/-- An integer of 64 bits, signed or not. One that needs more, up to 128, is an error, and a longer
one is no integer. -/
def ofInt? (n : Int) : Option (Option Value) :=
  if Number.fitsSigned 64 n || Number.fitsUnsigned 64 n then some (some (.number (.int n)))
  else if Number.fitsSigned 128 n || Number.fitsUnsigned 128 n then none
  else some none

/-- What a text without quotes stands for; nothing where that cannot be said. -/
def ofPlain? (s : String) : Option Value :=
  if s = "" ∨ isNullText s then some .null
  else match boolOfText? s with
    | some b => some (.bool b)
    | none => do
      let cs := s.toList
      match ← ((intOfText? cs).map ofInt?).getD (some none) with
      | some v => some v
      | none =>
        match if isZeroPadded cs then none else numeralOfText? cs with
        | some n => some (.number n)
        | none => some (.text s)

/-- What a scalar stands for that no tag says anything of. -/
def unmarked? (plain : Bool) (s : String) : Option Value :=
  if plain then ofPlain? s else some (.text s)

/-- What a scalar stands for under a tag that is not local: a value of one of the common kinds, or
else a string. -/
def ofCommon? (tag : Tag) (s : String) : Option Value :=
  match tag.text? with
  | some "tag:yaml.org,2002:bool" => (boolOfText? s).map .bool
  | some "tag:yaml.org,2002:int" => do (← ofInt? (← intOfText? s.toList))
  | some "tag:yaml.org,2002:float" => (numeralOfText? s.toList).map .number
  | some "tag:yaml.org,2002:null" => if isNullText s then some .null else none
  | _ => some (.text s)

end Value

end GpuFleet.Yaml
