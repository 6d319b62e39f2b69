import GpuFleet.Json.Raw
import GpuFleet.Number.Decimal

/-!
Reading a JSON text. Numbers written without a point and an exponent are integers where 64 bits,
signed or unsigned, hold them; all other numbers are binary floating-point numbers, and one beyond
their range has no value.

Each step takes the characters that are left and gives what it has read with the rest. The steps
that call one another descend on a counter that starts above the number of characters, and every
call but the first consumes one.
-/
namespace GpuFleet

namespace Json

open Number (Decimal Exponent digitsValue hexValue?)

/-- White space between tokens. -/
def isSpace (c : Char) : Bool := c == ' ' || c == '\n' || c == '\t' || c == '\r'

def skipSpace (cs : List Char) : List Char := cs.dropWhile isSpace

/-- The 16-bit unit of four hexadecimal digits. -/
def hexUnit? : List Char → Option (Nat × List Char)
  | a :: b :: c :: d :: rest => do
    let a ← hexValue? a
    let b ← hexValue? b
    let c ← hexValue? c
    let d ← hexValue? d
    some (((a * 16 + b) * 16 + c) * 16 + d, rest)
  | _ => none

/-- The low surrogate whose escape comes next. -/
def lowSurrogate? : List Char → Option (Nat × List Char)
  | '\\' :: 'u' :: rest => do
    let (low, rest) ← hexUnit? rest
    if 0xdc00 ≤ low ∧ low < 0xe000 then some (low, rest) else none
  | _ => none

/-- The character whose escape goes on with `cs` after `\u`: one unit, or a high surrogate and the
low one that has to follow. Half of a pair is no character. -/
def unicodeEscape? (cs : List Char) : Option (Option Char × List Char) := do
  let (unit, rest) ← hexUnit? cs
  if 0xd800 ≤ unit ∧ unit < 0xdc00 then
    match lowSurrogate? rest with
    | some (low, rest) =>
      some (some (Char.ofNat (0x10000 + (unit - 0xd800) * 0x400 + (low - 0xdc00))), rest)
    | none => some (none, rest)
  else if 0xdc00 ≤ unit ∧ unit < 0xe000 then some (none, rest)
  else some (some (Char.ofNat unit), rest)

/-- The character of an escape of one letter. -/
def letterEscape? : Char → Option Char
  | '"' => some '"'
  | '\\' => some '\\'
  | '/' => some '/'
  | 'b' => some '\x08'
  | 'f' => some '\x0c'
  | 'n' => some '\n'
  | 'r' => some '\r'
  | 't' => some '\t'
  | _ => none

/-- The characters of a string up to its closing quote, behind those `done`, of which the latest is
the first. There are none as soon as one has no value. -/
def readChars : (fuel : Nat) → (done : Option (List Char)) → List Char →
    Option (Option String × List Char)
  | 0, _, _ => none
  | fuel + 1, done, cs =>
    match cs with
    | '"' :: rest => some (done.map fun cs => String.ofList cs.reverse, rest)
    | '\\' :: 'u' :: rest => do
      let (c, rest) ← unicodeEscape? rest
      readChars fuel (do some ((← c) :: (← done))) rest
    | '\\' :: c :: rest => do
      let c ← letterEscape? c
      readChars fuel (done.map (c :: ·)) rest
    | c :: rest => if c.toNat < 0x20 then none else readChars fuel (done.map (c :: ·)) rest
    | [] => none

/-- A string, behind its opening quote. -/
def readString (cs : List Char) : Option (Option String × List Char) :=
  readChars (cs.length + 1) (some []) cs

/-- The digits at the front, and the rest. -/
def spanDigits (cs : List Char) : List Char × List Char := cs.span Char.isDigit

/-- The integer part: a zero alone, or digits that do not start with one. -/
def readWhole (cs : List Char) : Option (List Char × List Char) :=
  match spanDigits cs with
  | ([], _) => none
  | ('0' :: _ :: _, _) => none
  | r => some r

/-- The digits behind a point; none where there is no point. -/
def readFraction : List Char → Option (List Char × List Char)
  | '.' :: cs =>
    match spanDigits cs with
    | ([], _) => none
    | r => some r
  | cs => some ([], cs)

/-- The exponent; nothing where there is none. -/
def readExponent : List Char → Option (Option Exponent × List Char)
  | c :: cs =>
    if c = 'e' ∨ c = 'E' then
      let (negative, cs) := match cs with
        | '-' :: cs => (true, cs)
        | '+' :: cs => (false, cs)
        | cs => (false, cs)
      match spanDigits cs with
      | ([], _) => none
      | (ds, rest) => some (some ⟨negative, digitsValue ds⟩, rest)
    else some (none, c :: cs)
  | [] => some (none, [])

/-- A numeral. -/
def readDecimal (cs : List Char) : Option (Decimal × List Char) := do
  let (negative, cs) := match cs with
    | '-' :: cs => (true, cs)
    | cs => (false, cs)
  let (whole, cs) ← readWhole cs
  let (fraction, cs) ← readFraction cs
  let (exponent, cs) ← readExponent cs
  some ({ negative, whole, fraction, exponent }, cs)

/-- The number that a numeral writes. Minus zero is no integer. -/
def numberOf? (d : Decimal) : Option Number :=
  let real := d.toReal?.map .real
  match d.toInt? with
  | none => real
  | some n =>
    if (Number.fitsSigned 64 n || Number.fitsUnsigned 64 n) && !(d.negative && n == 0) then
      some (.int n)
    else real

mutual

/-- A value after optional white space. -/
def readValue : (fuel : Nat) → List Char → Option (RawJson × List Char)
  | 0, _ => none
  | fuel + 1, cs =>
    match skipSpace cs with
    | 'n' :: 'u' :: 'l' :: 'l' :: rest => some (.null, rest)
    | 't' :: 'r' :: 'u' :: 'e' :: rest => some (.bool true, rest)
    | 'f' :: 'a' :: 'l' :: 's' :: 'e' :: rest => some (.bool false, rest)
    | '"' :: rest => do
      let (s, rest) ← readString rest
      some (.string s, rest)
    | '[' :: rest =>
      match skipSpace rest with
      | ']' :: rest => some (.array [], rest)
      | _ => do
        let (items, rest) ← readItems fuel rest
        some (.array items, rest)
    | '\x7b' :: rest =>
      match skipSpace rest with
      | '\x7d' :: rest => some (.object [], rest)
      | _ => do
        let (members, rest) ← readMembers fuel rest
        some (.object members, rest)
    | cs => do
      let (d, rest) ← readDecimal cs
      some (.number (numberOf? d), rest)

/-- The items of an array from the next one on. -/
def readItems : (fuel : Nat) → List Char → Option (List RawJson × List Char)
  | 0, _ => none
  | fuel + 1, cs => do
    let (v, rest) ← readValue fuel cs
    match skipSpace rest with
    | ',' :: rest =>
      let (items, rest) ← readItems fuel rest
      some (v :: items, rest)
    | ']' :: rest => some ([v], rest)
    | _ => none

/-- The members of an object from the next one on. -/
def readMembers : (fuel : Nat) → List Char → Option (List (Option String × RawJson) × List Char)
  | 0, _ => none
  | fuel + 1, cs =>
    match skipSpace cs with
    | '"' :: rest => do
      let (key, rest) ← readString rest
      match skipSpace rest with
      | ':' :: rest =>
        let (v, rest) ← readValue fuel rest
        match skipSpace rest with
        | ',' :: rest =>
          let (members, rest) ← readMembers fuel rest
          some ((key, v) :: members, rest)
        | '\x7d' :: rest => some ([(key, v)], rest)
        | _ => none
      | _ => none
    | _ => none

end

end Json

/-- What a text writes, with optional white space around it. -/
def RawJson.ofText? (s : String) : Option RawJson := do
  let cs := s.toList
  let (v, rest) ← Json.readValue (2 * cs.length + 2) cs
  if Json.skipSpace rest = [] then some v else none

namespace Json

/-- The parts of a text's value that are asked for. -/
def parsePart? (extent : Extent) (s : String) : Option Json := do
  (← RawJson.ofText? s).read? extent RawJson.maxDepth

/-- The value that a text writes. -/
def parse? (s : String) : Option Json := parsePart? .whole s

end Json

end GpuFleet
