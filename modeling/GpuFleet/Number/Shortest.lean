import GpuFleet.Number.Binary64

/-!
The shortest decimal text that reads back as a given number, and its layout. The digits come from
the coarsest decimal grid that has a point among the reals which round to the number; of two such
points the nearer one counts. The layout is positional between `1e-5` and `1e16` and has an exponent
elsewhere.
-/
namespace GpuFleet.Binary64

/-- A real in the form `count * 2 ^ exponent`. -/
structure Dyadic where
  count : Nat
  exponent : Int
deriving DecidableEq, Repr

/-- The power of a base as a fraction `(num, den)`. -/
def powFraction (base : Nat) : Int → Nat × Nat
  | .ofNat e => (base.pow e, 1)
  | .negSucc e => (1, base.pow (e + 1))

/-- The quotient `d / 10 ^ k` as a fraction. -/
def Dyadic.onGrid (d : Dyadic) (k : Int) : Nat × Nat :=
  let two := powFraction 2 d.exponent
  let ten := powFraction 10 k
  (d.count * two.1 * ten.2, two.2 * ten.1)

/-- The reals that round to a nonzero number reach from `low` to `high`, with the ends if the
significand is even; all counts are in quarters of its last place. -/
structure Neighbourhood where
  low : Dyadic
  value : Dyadic
  high : Dyadic
  closed : Bool

def neighbourhood (x : Binary64) : Neighbourhood :=
  let m := x.significand
  let e := x.exponent - 2
  let below := if m = Number.capacity 52 ∧ -1074 < x.exponent then 4 * m - 1 else 4 * m - 2
  ⟨⟨below, e⟩, ⟨4 * m, e⟩, ⟨4 * m + 2, e⟩, m % 2 = 0⟩

/-- The point `c * 10 ^ k` lies in the neighbourhood. -/
def Neighbourhood.holds (n : Neighbourhood) (k : Int) (c : Nat) : Bool :=
  let (ln, ld) := n.low.onGrid k
  let (hn, hd) := n.high.onGrid k
  if n.closed then ln ≤ c * ld && c * hd ≤ hn else ln < c * ld && c * hd < hn

/-- The point of the grid `10 ^ k` that lies in the neighbourhood nearest to the value; the even one
of two at the same distance. -/
def Neighbourhood.point? (n : Neighbourhood) (k : Int) : Option Nat :=
  let (vn, vd) := n.value.onGrid k
  let c := vn / vd
  match n.holds k c, n.holds k (c + 1) with
  | false, false => none
  | true, false => some c
  | false, true => some (c + 1)
  | true, true => some (roundQuotient vn vd)

/-- The digits and the scale of the shortest decimal that reads back as `x`. -/
def shortest (x : Binary64) : Nat × Int :=
  let n := x.neighbourhood
  let scales := (List.range 660).map fun (i : Nat) => (310 : Int) - i
  (scales.findSome? fun k => (n.point? k).map fun c => (c, k)).getD (0, 0)

/-- A number's text always shows that it is not an integer: `1.0`, `0.00001`, `1e+16`, `1.5e+300`,
`-0.0`. -/
def layout (digits : List Char) (scale : Int) : List Char :=
  let point : Int := digits.length + scale
  if 0 ≤ scale ∧ point ≤ 16 then
    digits ++ List.replicate scale.toNat '0' ++ ['.', '0']
  else if 0 < point ∧ point ≤ 16 then
    digits.take point.toNat ++ '.' :: digits.drop point.toNat
  else if -5 < point ∧ point ≤ 0 then
    '0' :: '.' :: List.replicate (-point).toNat '0' ++ digits
  else
    let mantissa := match digits with
      | [d] => [d]
      | d :: rest => d :: '.' :: rest
      | [] => []
    let exponent := point - 1
    mantissa ++ 'e' :: (if exponent < 0 then '-' else '+') :: Nat.toDigits 10 exponent.natAbs

def chars (x : Binary64) : List Char :=
  let sign := if x.negative then ['-'] else []
  if x.isZero then sign ++ ['0', '.', '0']
  else
    let (c, k) := x.shortest
    sign ++ layout (Nat.toDigits 10 c) k

end GpuFleet.Binary64
