/-!
YAML text as characters that know where they stand. Every line break but the two of Unicode is
written as a line feed, a carriage return and line feed together as one.
-/
namespace GpuFleet.Yaml

/-- A character of the text: its line, its column, and the number of bytes before it. -/
structure Glyph where
  char : Char
  line : Nat
  column : Nat
  index : Nat
deriving DecidableEq, Repr

/-- The characters that a YAML text may hold. -/
def isReadable (c : Char) : Bool :=
  let n := c.toNat
  c == '\t' || c == '\n' || c == '\r' || (0x20 ≤ n && n ≤ 0x7e) || n == 0x85
    || (0xa0 ≤ n && n ≤ 0xd7ff) || (0xe000 ≤ n && n ≤ 0xfffd) || 0x10000 ≤ n

/-- A space or a tab. -/
def isBlank (c : Char) : Bool := c == ' ' || c == '\t'

/-- A break as a glyph holds it. -/
def isBreak (c : Char) : Bool := c == '\n' || c == '\u2028' || c == '\u2029'

/-- The characters in their places, from the given one on. -/
def placed (line column index : Nat) : List Char → List Glyph
  | [] => []
  | '\r' :: '\n' :: cs => ⟨'\n', line, column, index⟩ :: placed (line + 1) 0 (index + 2) cs
  | c :: cs =>
    let next := index + c.utf8Size
    if c = '\n' ∨ c = '\r' ∨ c = '\u0085' then
      ⟨'\n', line, column, index⟩ :: placed (line + 1) 0 next cs
    else if isBreak c then ⟨c, line, column, index⟩ :: placed (line + 1) 0 next cs
    else ⟨c, line, column, index⟩ :: placed line (column + 1) next cs

/-- The glyphs of a text; nothing where a character may not stand in YAML. -/
def glyphs? (s : String) : Option (List Glyph) :=
  if s.toList.all isReadable then some (placed 0 0 0 s.toList) else none

namespace Glyph

/-- The first glyph is one of the characters. -/
def headIn (chars : List Char) : List Glyph → Bool
  | g :: _ => chars.contains g.char
  | [] => false

/-- The text ends here, or a blank or a break follows. -/
def atGap : List Glyph → Bool
  | g :: _ => isBlank g.char || isBreak g.char
  | [] => true

/-- A line that starts with three marks, alone or before a gap, stands between documents. -/
def atDocumentMark (mark : Char) : List Glyph → Bool
  | a :: b :: c :: rest =>
    a.column == 0 && a.char == mark && b.char == mark && c.char == mark && atGap rest
  | _ => false

/-- A mark between documents of either kind. -/
def atBoundary (gs : List Glyph) : Bool := atDocumentMark '-' gs || atDocumentMark '.' gs

/-- What follows the blanks. -/
def skipBlanks (gs : List Glyph) : List Glyph := gs.dropWhile (isBlank ·.char)

/-- The rest of the line. -/
def skipLine (gs : List Glyph) : List Glyph := gs.dropWhile (!isBreak ·.char)

/-- The end of a line after blanks and a comment; nothing where anything else stands there. -/
def skipLineEnd? (gs : List Glyph) : Option (List Glyph) :=
  let gs := skipBlanks gs
  let gs := if headIn ['#'] gs then skipLine gs else gs
  match gs with
  | [] => some []
  | g :: rest => if isBreak g.char then some rest else none

end Glyph

end GpuFleet.Yaml
