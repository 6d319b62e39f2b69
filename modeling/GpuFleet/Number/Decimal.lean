import GpuFleet.Number.Binary64
import GpuFleet.Number.Digits

/-!
Decimal numerals, and the number that a reader with 64 bits for the digits makes of one.

Such a reader takes digits as long as the number they form fits in 64 bits. A digit beyond that
counts as a place if it stands before the point, and not at all behind it. The number so far is
brought to its scale by one multiplication or division with a power of ten, or by several divisions
where the scale lies far below zero. Each of these steps rounds, so that the result may miss the
number nearest to the numeral by a few units in the last place.
-/
namespace GpuFleet.Number

/-- An exponent as it is written. -/
structure Exponent where
  negative : Bool
  magnitude : Nat
deriving DecidableEq, Repr

def Exponent.value (e : Exponent) : Int := if e.negative then -(e.magnitude : Int) else e.magnitude

/-- A decimal numeral: its digits before and behind the point, and its exponent if it has one. -/
structure Decimal where
  negative : Bool
  whole : List Char
  fraction : List Char := []
  exponent : Option Exponent := none
deriving DecidableEq, Repr

/-- The number `significand * 10 ^ scale`. -/
structure Scaled where
  significand : Nat
  scale : Int
deriving DecidableEq, Repr

namespace Scaled

/-- The digits before the point, behind those that make `significand`. -/
def takeWhole (significand : Nat) : List Char → Scaled
  | [] => ⟨significand, 0⟩
  | d :: ds =>
    let next := significand * 10 + digitValue d
    if next < capacity 64 then takeWhole next ds else ⟨significand, ds.length + 1⟩

/-- The digits behind the point. -/
def takeFraction (s : Scaled) : List Char → Scaled
  | [] => s
  | d :: ds =>
    let next := s.significand * 10 + digitValue d
    if next < capacity 64 then takeFraction ⟨next, s.scale - 1⟩ ds else s

/-- The number with an exponent. One of more than 31 bits leaves nothing but zero, if it is
negative, and lies beyond all range else. -/
def raised? (s : Scaled) (e : Exponent) : Option Scaled :=
  if e.magnitude < capacity 31 then some { s with scale := s.scale + e.value }
  else if e.negative || s.significand == 0 then some ⟨0, 0⟩
  else none

end Scaled

/-- The number times `10 ^ places`. -/
def shiftUp? (x : Binary64) (places : Nat) : Option Binary64 :=
  if places ≤ 308 then do x.mul? (← Binary64.powerOfTen? places)
  else if x.isZero then some x
  else none

/-- The number divided by `10 ^ places`, in steps of at most `10 ^ 308`. -/
def shiftDown? (x : Binary64) (places : Nat) : Option Binary64 :=
  if places ≤ 308 then do x.div? (← Binary64.powerOfTen? places)
  else if x.isZero then some x
  else do
    let x ← x.div? (← Binary64.powerOfTen? 308)
    shiftDown? x (places - 308)
termination_by places

namespace Decimal

/-- The digits as far as 64 bits hold them, and their scale. -/
def scaled? (d : Decimal) : Option Scaled :=
  let s := (Scaled.takeWhole 0 d.whole).takeFraction d.fraction
  match d.exponent with
  | none => some s
  | some e => s.raised? e

/-- The number that the numeral is read as; nothing where that lies beyond the finite range. -/
def toReal? (d : Decimal) : Option Binary64 := do
  let s ← d.scaled?
  let x ← Binary64.ofQuotient? false s.significand 1
  let x ← match s.scale with
    | .ofNat places => shiftUp? x places
    | .negSucc places => shiftDown? x (places + 1)
  some { x with negative := d.negative }

/-- The integer, if the numeral is written as one. -/
def toInt? (d : Decimal) : Option Int :=
  if d.fraction = [] ∧ d.exponent = none then
    let n : Int := digitsValue d.whole
    some (if d.negative then -n else n)
  else none

end Decimal

end GpuFleet.Number
