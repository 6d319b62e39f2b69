import GpuFleet.Json.Reader
import GpuFleet.Yaml.Token.Gap
import GpuFleet.Yaml.Token.Name

/-!
Scalars without quotes or between quotes, which may go on over several lines. Each reader takes the
glyphs one by one; the characters done are kept latest first.
-/
namespace GpuFleet.Yaml

open Glyph (atGap atBoundary headIn)

/-- The brackets and the comma of flow collections. -/
def flowIndicators : List Char := [',', '[', ']', '\x7b', '\x7d']

/-- A scalar without quotes. It ends before a colon that a gap follows, before a comment or a mark
between documents, in a flow collection before an indicator, and in a block before a line that is
indented less than `indent`. The flag says that a line has ended behind it. -/
def plainScalar (inFlow : Bool) (indent : Int) (done : List Char) (gap : Gap) :
    List Glyph → Option (List Char × Bool × List Glyph)
  | [] => some (done, gap.hasBreak, [])
  | g :: rest =>
    if isBlank g.char || isBreak g.char then
      if g.char = '\t' ∧ gap.hasBreak ∧ g.column < indent then none
      else plainScalar inFlow indent done (gap.push g.char) rest
    else
      let outside := gap ≠ .none
        ∧ ((¬ inFlow ∧ g.column < indent) ∨ atBoundary (g :: rest) ∨ g.char = '#')
      if outside then some (done, gap.hasBreak, g :: rest)
      else if inFlow ∧ g.char = ':' ∧ headIn ('?' :: flowIndicators) rest then none
      else if (g.char = ':' ∧ atGap rest) ∨ (inFlow ∧ flowIndicators.contains g.char) then
        some (done, gap.hasBreak, g :: rest)
      else plainScalar inFlow indent (g.char :: gap.fold done) .none rest

/-- A scalar between single quotes, behind the first one. A quote in it is written twice. -/
def singleQuoted (done : List Char) (gap : Gap) : List Glyph → Option (List Char × List Glyph)
  | [] => none
  | g :: rest =>
    if isBlank g.char || isBreak g.char then singleQuoted done (gap.push g.char) rest
    else if atBoundary (g :: rest) then none
    else if g.char = '\'' then
      match rest with
      | h :: tail =>
        if h.char = '\'' then singleQuoted ('\'' :: gap.fold done) .none tail
        else some (gap.fold done, rest)
      | [] => some (gap.fold done, rest)
    else singleQuoted (g.char :: gap.fold done) .none rest

/-- Where a reader of double quotes is: in the text, behind a backslash, or in the code of a
character, of which some digits are still to come. -/
inductive QuotedPlace where
  | text (gap : Gap)
  | escape
  | code (digits value : Nat)

/-- The character of an escape of one letter. -/
def letterEscape? : Char → Option Char
  | '0' => some '\x00'
  | 'a' => some '\x07'
  | 'b' => some '\x08'
  | 't' | '\t' => some '\t'
  | 'n' => some '\n'
  | 'v' => some '\x0b'
  | 'f' => some '\x0c'
  | 'r' => some '\r'
  | 'e' => some '\x1b'
  | ' ' => some ' '
  | '"' => some '"'
  | '/' => some '/'
  | '\\' => some '\\'
  | 'N' => some '\u0085'
  | '_' => some '\u00a0'
  | 'L' => some '\u2028'
  | 'P' => some '\u2029'
  | _ => none

/-- The number of digits of an escape by code. -/
def codeDigits? : Char → Option Nat
  | 'x' => some 2
  | 'u' => some 4
  | 'U' => some 8
  | _ => none

/-- A scalar between double quotes, behind the first one. -/
def doubleQuoted (done : List Char) :
    QuotedPlace → List Glyph → Option (List Char × List Glyph)
  | _, [] => none
  | .escape, g :: rest =>
    if isBreak g.char then doubleQuoted done (.text (.breaks none [])) rest
    else match letterEscape? g.char, codeDigits? g.char with
      | some c, _ => doubleQuoted (c :: done) (.text .none) rest
      | none, some digits => doubleQuoted done (.code digits 0) rest
      | none, none => none
  | .code digits value, g :: rest => do
    let value := value * 16 + (← Number.hexValue? g.char)
    if digits ≤ 1 then doubleQuoted ((← charOfCode? value) :: done) (.text .none) rest
    else doubleQuoted done (.code (digits - 1) value) rest
  | .text gap, g :: rest =>
    if isBlank g.char || isBreak g.char then doubleQuoted done (.text (gap.push g.char)) rest
    else if atBoundary (g :: rest) then none
    else if g.char = '"' then some (gap.fold done, rest)
    else if g.char = '\\' then doubleQuoted (gap.fold done) .escape rest
    else doubleQuoted (g.char :: gap.fold done) (.text .none) rest

end GpuFleet.Yaml
