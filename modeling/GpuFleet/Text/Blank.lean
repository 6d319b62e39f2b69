/-!
White space in the sense of the Unicode property White_Space, which is wider than the class that
`Char.isWhitespace` tests, and trimming by it.
-/
namespace GpuFleet.Text

/-- The Unicode property White_Space. -/
def isBlank (c : Char) : Bool :=
  let n := c.toNat
  (9 ≤ n && n ≤ 13) || n == 0x20 || n == 0x85 || n == 0xa0 || n == 0x1680
    || (0x2000 ≤ n && n ≤ 0x200a) || n == 0x2028 || n == 0x2029 || n == 0x202f || n == 0x205f
    || n == 0x3000

/-- The text without its leading white space. -/
def trimStart (cs : List Char) : List Char := cs.dropWhile isBlank

/-- The text without the white space at its two ends. -/
def trim (cs : List Char) : List Char := (trimStart (trimStart cs).reverse).reverse

/-- White space only, or nothing at all. -/
def isBlankText (s : String) : Bool := s.toList.all isBlank

end GpuFleet.Text
