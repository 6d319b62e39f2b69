import GpuFleet.Number.Width

/-!
Finite binary floating-point numbers of 64 bits as exact dyadic fractions, and the rounding of a
decimal numeral to the nearest of them. All arithmetic is on natural numbers, so that every step can
be reasoned about.
-/
namespace GpuFleet

/-- The number `significand * 2 ^ exponent`, negated if `negative`. Zero keeps its sign. The
functions below build it with `significand < 2 ^ 53` and `-1074 ≤ exponent`, and with
`2 ^ 52 ≤ significand` unless `exponent = -1074`, so that a nonzero number has one form. -/
structure Binary64 where
  negative : Bool
  significand : Nat
  exponent : Int
deriving DecidableEq, Repr, Inhabited

namespace Binary64

def zero (negative : Bool) : Binary64 := ⟨negative, 0, -1074⟩

def isZero (x : Binary64) : Bool := x.significand == 0

/-- Equal as numbers: the two zeros are one. -/
def sameValue (x y : Binary64) : Bool := x == y || (x.isZero && y.isZero)

/-- The natural number nearest to `num / den`, the even one of two. -/
def roundQuotient (num den : Nat) : Nat :=
  let q := num / den
  let r := num % den
  if 2 * r < den then q else if 2 * r = den then q + q % 2 else q + 1

/-- The number nearest to `num / den` on the grid of multiples of `2 ^ exponent`, counted in grid
steps. -/
def roundOnGrid (num den : Nat) (exponent : Int) : Nat :=
  match exponent with
  | .ofNat e => roundQuotient num (den * Number.capacity e)
  | .negSucc e => roundQuotient (num * Number.capacity (e + 1)) den

/-- The finest grid exponent that holds `num / den` in 53 bits, subnormal numbers apart. -/
def gridExponent (num den : Nat) : Int :=
  let low : Int := (num.log2 : Int) - den.log2 - 53
  let fits : Bool := match low with
    | .ofNat e => num < den * Number.capacity (e + 53)
    | .negSucc e => num * Number.capacity (e + 1) < den * Number.capacity 53
  max (if fits then low else low + 1) (-1074)

/-- The number nearest to the quotient `num / den`, ties to the even significand; nothing where that
lies beyond the finite range. -/
def ofQuotient? (negative : Bool) (num den : Nat) : Option Binary64 :=
  let e := gridExponent num den
  let m := roundOnGrid num den e
  let x : Binary64 :=
    if m = Number.capacity 53 then ⟨negative, Number.capacity 52, e + 1⟩ else ⟨negative, m, e⟩
  if x.significand = 0 then some (zero negative)
  else if 971 < x.exponent then none
  else some x

/-- The number nearest to `digits * 10 ^ scale`; nothing where that lies beyond the finite range.
Scales far outside the range are answered without forming the power. -/
def ofDecimal? (negative : Bool) (digits : Nat) (scale : Int) : Option Binary64 :=
  if digits = 0 then some (zero negative)
  else if 400 < scale then none
  else if scale + (digits.log2 : Int) < -1200 then some (zero negative)
  else match scale with
    | .ofNat e => ofQuotient? negative (digits * Nat.pow 10 e) 1
    | .negSucc e => ofQuotient? negative digits (Nat.pow 10 (e + 1))

/-- The absolute value as a fraction `(num, den)`. -/
def fraction (x : Binary64) : Nat × Nat :=
  match x.exponent with
  | .ofNat e => (x.significand * Number.capacity e, 1)
  | .negSucc e => (x.significand, Number.capacity (e + 1))

/-- The number nearest to the product; nothing where that lies beyond the finite range. -/
def mul? (x y : Binary64) : Option Binary64 :=
  let (a, b) := x.fraction
  let (c, d) := y.fraction
  ofQuotient? (x.negative != y.negative) (a * c) (b * d)

/-- The number nearest to the quotient; nothing where there is none in the finite range. -/
def div? (x y : Binary64) : Option Binary64 :=
  if y.isZero then none
  else
    let (a, b) := x.fraction
    let (c, d) := y.fraction
    ofQuotient? (x.negative != y.negative) (a * d) (b * c)

/-- The number nearest to a power of ten; nothing where that lies beyond the finite range. -/
def powerOfTen? (n : Nat) : Option Binary64 := ofQuotient? false (Nat.pow 10 n) 1

end Binary64

end GpuFleet
