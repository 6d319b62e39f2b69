/-!
Widths of integers: how many numbers so many bits tell apart, and which numbers those are.
-/
namespace GpuFleet.Number

/-- The number of values of so many bits. -/
def capacity (bits : Nat) : Nat := Nat.pow 2 bits

/-- The number fits in so many bits that have no sign. -/
def fitsUnsigned (bits : Nat) (n : Int) : Bool := 0 ≤ n && n < (capacity bits : Int)

/-- The number fits in so many bits of which one is the sign. -/
def fitsSigned (bits : Nat) (n : Int) : Bool :=
  -(capacity (bits - 1) : Int) ≤ n && n < (capacity (bits - 1) : Int)

end GpuFleet.Number
