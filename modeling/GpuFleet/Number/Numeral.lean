import GpuFleet.Number.Digits
import GpuFleet.Number.Width

/-!
Numerals of whole numbers that have to fit in a number of bits.
-/
namespace GpuFleet.Number

/-- The number that digits make behind `n`, taken up one by one. There is none where something else
stands among them, or as soon as the number does not fit. -/
def takeUp? (bits n : Nat) : List Char → Option Nat
  | [] => some n
  | c :: cs =>
    let next := n * 10 + digitValue c
    if c.isDigit && next < capacity bits then takeUp? bits next cs else none

/-- A number without a sign: at least one decimal digit, behind a plus sign or none. -/
def unsigned? (bits : Nat) (cs : List Char) : Option Nat :=
  let digits := match cs with
    | '+' :: ds => ds
    | ds => ds
  if digits.isEmpty then none else takeUp? bits 0 digits

end GpuFleet.Number
