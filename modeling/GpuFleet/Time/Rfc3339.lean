import GpuFleet.Number.Digits
import GpuFleet.Number.Width
import GpuFleet.Time.Instant
import GpuFleet.Text.Blank

/-!
Instants as text: a date, a time of day and an offset from UTC, as RFC 3339 has them.

Reading is lenient: the date and the time may also be joined by a space, white space may stand
around each part, leading zeros may be missing, the offset may be `UTC` or lack its colon, and a
year may have a sign and then any number of digits. Second 60 is the leap second of its minute.
Digits of the fraction beyond the ninth are dropped. Writing gives UTC and the suffix `Z`.
-/
namespace GpuFleet.Instant

/-- Up to `limit` decimal digits at the front, at least one: their value, their number, the rest. -/
def readDigits? (limit : Nat) (cs : List Char) : Option (Nat × Nat × List Char) :=
  let ds := (cs.take limit).takeWhile Char.isDigit
  if ds.isEmpty then none
  else some (Number.digitsValue ds, ds.length, cs.drop ds.length)

/-- A number of one or two digits after white space. -/
def readPart? (cs : List Char) : Option (Nat × List Char) := do
  let (n, _, rest) ← readDigits? 2 (Text.trimStart cs)
  some (n, rest)

/-- The mark `c` after white space. -/
def readMark? (c : Char) (cs : List Char) : Option (List Char) :=
  match Text.trimStart cs with
  | d :: rest => if d = c then some rest else none
  | [] => none

/-- A year: four digits at most, or a sign and any number of digits that 64 bits can hold. -/
def readYear? (cs : List Char) : Option (Int × List Char) :=
  match Text.trimStart cs with
  | '-' :: rest => do
    let (n, _, rest) ← readDigits? rest.length rest
    if Number.fitsSigned 64 n then some (-(n : Int), rest) else none
  | '+' :: rest => do
    let (n, _, rest) ← readDigits? rest.length rest
    if Number.fitsSigned 64 n then some ((n : Int), rest) else none
  | rest => do
    let (n, _, rest) ← readDigits? 4 rest
    some ((n : Int), rest)

def readDate? (cs : List Char) : Option (Date × List Char) := do
  let (year, cs) ← readYear? cs
  let cs ← readMark? '-' cs
  let (month, cs) ← readPart? cs
  let cs ← readMark? '-' cs
  let (day, cs) ← readPart? cs
  some (⟨year, month, day⟩, cs)

/-- The nanoseconds of an optional fraction. -/
def readFraction? : List Char → Option (Nat × List Char)
  | '.' :: cs => do
    let (n, width, rest) ← readDigits? 9 cs
    some (n * Nat.pow 10 (9 - width), rest.dropWhile Char.isDigit)
  | cs => some (0, cs)

/-- The second of the day with its nanoseconds. -/
def readTime? (cs : List Char) : Option ((Nat × Nat) × List Char) := do
  let (hour, cs) ← readPart? cs
  let cs ← readMark? ':' cs
  let (minute, cs) ← readPart? cs
  let cs ← readMark? ':' cs
  let (second, cs) ← readPart? cs
  let (nanos, cs) ← readFraction? cs
  if hour < 24 ∧ minute < 60 ∧ second ≤ 60 then
    let start := hour * 3600 + minute * 60
    if second = 60 then some ((start + 59, 1000000000 + nanos), cs)
    else some ((start + second, nanos), cs)
  else none

/-- Two digits that have to stand at the front. -/
def twoDigits? : List Char → Option (Nat × List Char)
  | a :: b :: rest =>
    if a.isDigit ∧ b.isDigit then some ((a.toNat - 48) * 10 + (b.toNat - 48), rest) else none
  | _ => none

/-- The seconds by which an offset lies east of UTC, less than a day either way. -/
def readOffset? (cs : List Char) : Option (Int × List Char) :=
  match cs with
  | u :: t :: c :: rest =>
    if u.toUpper = 'U' ∧ t.toUpper = 'T' ∧ c.toUpper = 'C' then some (0, rest)
    else readSigned cs
  | _ => readSigned cs
where
  readSigned : List Char → Option (Int × List Char)
    | 'Z' :: rest | 'z' :: rest => some (0, rest)
    | '+' :: rest => readMinutes 1 rest
    | '-' :: rest | '\u2212' :: rest => readMinutes (-1) rest
    | _ => none
  readMinutes (sign : Int) (cs : List Char) : Option (Int × List Char) := do
    let (hours, cs) ← twoDigits? cs
    let (minutes, cs) ← twoDigits? (cs.dropWhile fun c => c == ':' || Text.isBlank c)
    if hours < 24 ∧ minutes < 60 then some (sign * (hours * 3600 + minutes * 60), cs) else none

/-- The instant that a text names. -/
def parse? (s : String) : Option Instant := do
  let (date, cs) ← readDate? s.toList
  let cs ← match cs with
    | 'T' :: cs | 't' :: cs | ' ' :: cs => some cs
    | _ => none
  let ((second, nanos), cs) ← readTime? cs
  let (offset, cs) ← readOffset? (Text.trimStart cs)
  if date.isValid ∧ (Text.trimStart cs).isEmpty then
    let seconds := date.toDays * 86400 + second - offset
    if (Date.ofDays (Int.fdiv seconds 86400)).isValid then some ⟨seconds, nanos⟩ else none
  else none

/-- Decimal digits, filled up with zeros on the left. -/
def padded (width n : Nat) : List Char :=
  let ds := Nat.toDigits 10 n
  List.replicate (width - ds.length) '0' ++ ds

/-- A year of four digits, or one with a sign outside the years 0 to 9999. -/
def yearChars (year : Int) : List Char :=
  if 0 ≤ year ∧ year ≤ 9999 then padded 4 year.toNat
  else (if year < 0 then '-' else '+') :: padded 4 year.natAbs

/-- Date and time of day, without fraction and offset. -/
def secondChars (t : Instant) : List Char :=
  let days := Int.fdiv t.seconds 86400
  let second := (t.seconds - days * 86400).toNat
  let date := Date.ofDays days
  let leap := if 1000000000 ≤ t.nanos then 1 else 0
  yearChars date.year ++ '-' :: padded 2 date.month ++ '-' :: padded 2 date.day ++ 'T' ::
    padded 2 (second / 3600) ++ ':' :: padded 2 (second / 60 % 60) ++ ':' ::
    padded 2 (second % 60 + leap)

/-- A fraction in 0, 3, 6 or 9 digits, the fewest that lose nothing. -/
def fractionChars (nanos : Nat) : List Char :=
  if nanos = 0 then []
  else if nanos % 1000000 = 0 then '.' :: padded 3 (nanos / 1000000)
  else if nanos % 1000 = 0 then '.' :: padded 6 (nanos / 1000)
  else '.' :: padded 9 nanos

/-- The full text. -/
def text (t : Instant) : String :=
  String.ofList (t.secondChars ++ fractionChars (t.nanos % 1000000000) ++ ['Z'])

/-- The text in whole seconds; the fraction is cut off. -/
def wholeSecondText (t : Instant) : String := String.ofList (t.secondChars ++ ['Z'])

end GpuFleet.Instant
