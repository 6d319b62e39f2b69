import GpuFleet.Yaml.Token.Block
import GpuFleet.Yaml.Token.Flow

/-!
From glyphs to tokens. The columns of a block collection's entries open and close it; and since the
key of a mapping can only be told by the colon behind it, the reader remembers where a key may have
begun and puts the tokens for it there afterwards.
-/
namespace GpuFleet.Yaml

open Glyph (atGap headIn)

/-- A place where the key of a mapping may begin. -/
structure KeyPlace where
  /-- The number of tokens before it. -/
  tokens : Nat
  /-- The place continues a block mapping, so that a key it must be. -/
  required : Bool
  glyph : Glyph

/-- Tokens half read. -/
structure Layout where
  /-- The tokens, the latest first. -/
  tokens : List Token := []
  count : Nat := 0
  /-- The columns of the open block collections, the innermost first. -/
  columns : List Nat := []
  /-- A key may begin here. -/
  keyAllowed : Bool := true
  /-- Where the key of the innermost collection may have begun. -/
  place : Option KeyPlace := none
  /-- The places around each of the open flow collections, the innermost first. -/
  outer : List (Option KeyPlace) := []

namespace Layout

def inFlow (s : Layout) : Bool := !s.outer.isEmpty

/-- The column of the innermost block collection, -1 where there is none. -/
def indent (s : Layout) : Int :=
  match s.columns with
  | c :: _ => c
  | [] => -1

def emit (t : Token) (s : Layout) : Layout :=
  { s with tokens := t :: s.tokens, count := s.count + 1 }

/-- Puts a token behind the first `before` ones. -/
def insert (t : Token) (before : Nat) (s : Layout) : Layout :=
  let later := s.count - before
  { s with tokens := s.tokens.take later ++ t :: s.tokens.drop later, count := s.count + 1 }

/-- Closes the block collections to the right of a column. -/
def close (column : Int) (s : Layout) : Layout :=
  if s.inFlow then s
  else
    let closed := s.columns.takeWhile fun (c : Nat) => column < (c : Int)
    { s with
      tokens := closed.map (fun _ => .blockEnd) ++ s.tokens
      count := s.count + closed.length
      columns := s.columns.drop closed.length }

/-- Opens a block collection, behind the first `before` tokens, if the column is to the right of
those that are open. -/
def openAt (column : Nat) (t : Token) (before : Nat) (s : Layout) : Layout :=
  if !s.inFlow && s.indent < (column : Int) then
    { s with columns := column :: s.columns }.insert t before
  else s

/-- No key has begun; nothing where one had to. -/
def dropPlace? (s : Layout) : Option Layout :=
  if s.place.any (·.required) then none else some { s with place := none }

/-- Notes that a key may begin at the glyph. -/
def notePlace? (g : Glyph) (s : Layout) : Option Layout :=
  if s.keyAllowed then do
    let s ← s.dropPlace?
    some { s with
      place := some {
        tokens := s.count
        required := !s.inFlow && s.indent == (g.column : Int)
        glyph := g } }
  else some s

/-- A key lies on one line and is not longer than 1024 bytes. -/
def dropStalePlace? (g : Glyph) (s : Layout) : Option Layout :=
  match s.place with
  | some p =>
    if p.glyph.line < g.line ∨ p.glyph.index + 1024 < g.index then s.dropPlace? else some s
  | none => some s

/-- A token that begins a node and leaves no room for a key behind it. -/
def emitNode? (g : Glyph) (t : Token) (s : Layout) : Option Layout := do
  let s ← s.notePlace? g
  some ({ s with keyAllowed := false }.emit t)

/-- A token between documents. -/
def emitBoundary? (t : Token) (s : Layout) : Option Layout := do
  let s ← (s.close (-1)).dropPlace?
  some ({ s with keyAllowed := false }.emit t)

def openFlow? (g : Glyph) (t : Token) (s : Layout) : Option Layout := do
  let s ← s.notePlace? g
  some ({ s with place := none, outer := s.place :: s.outer, keyAllowed := true }.emit t)

def closeFlow? (t : Token) (s : Layout) : Option Layout := do
  let s ← s.dropPlace?
  let s : Layout := match s.outer with
    | place :: outer => { s with place, outer }
    | [] => s
  some ({ s with keyAllowed := false }.emit t)

/-- A dash before an entry, or a question mark before a key. In a block it has to stand where a key
may begin. -/
def emitIndicator? (g : Glyph) (opening t : Token) (keyAllowed : Bool) (s : Layout) :
    Option Layout := do
  if !s.inFlow && !s.keyAllowed then none
  else
    let s ← (s.openAt g.column opening s.count).dropPlace?
    some ({ s with keyAllowed }.emit t)

/-- The colon of a mapping: behind a key that has begun, or for itself. -/
def emitValue? (g : Glyph) (s : Layout) : Option Layout :=
  match s.place with
  | some p =>
    let s := (s.insert .key p.tokens).openAt p.glyph.column .blockMappingStart p.tokens
    some ({ s with place := none, keyAllowed := false }.emit .value)
  | none =>
    if s.inFlow then some ({ s with keyAllowed := false }.emit .value)
    else if s.keyAllowed then
      some ({ (s.openAt g.column .blockMappingStart s.count) with keyAllowed := true }.emit .value)
    else none

/-- Passes over white space and comments, to the next token. A tab may not indent a line of a
block, and a mark of byte order may only start a line. The flag says that a key may begin. -/
def skipGap (inFlow : Bool) (keyAllowed inComment : Bool) : List Glyph → Bool × List Glyph
  | [] => (keyAllowed, [])
  | g :: rest =>
    if isBreak g.char then skipGap inFlow (keyAllowed || !inFlow) false rest
    else if inComment ∨ g.char = '#' then skipGap inFlow keyAllowed true rest
    else if g.char = ' ' ∨ (g.char = '\t' ∧ (inFlow ∨ !keyAllowed))
        ∨ (g.column = 0 ∧ g.char = '\ufeff') then
      skipGap inFlow keyAllowed false rest
    else (keyAllowed, g :: rest)

/-- A scalar without quotes may begin with most characters, and with an indicator that no gap
follows. A tab that is left where a key may begin starts nothing. -/
def startsPlain (inFlow : Bool) (c : Char) (rest : List Glyph) : Bool :=
  if c == '-' then !headIn [' ', '\t'] rest
  else if c == '?' || c == ':' then !inFlow && !atGap rest
  else !isBlank c && !",[]\x7b\x7d#&*!|>'\"%@`".toList.contains c

/-- A plain scalar. Where a line has ended behind it, a key may begin. -/
def plainToken? (gs : List Glyph) (s : Layout) : Option (Layout × List Glyph) := do
  let (cs, crossed, rest) ← plainScalar s.inFlow (s.indent + 1) [] .none gs
  let s := s.emit (.scalar true (String.ofList cs.reverse))
  some ({ s with keyAllowed := crossed }, rest)

/-- A block scalar, behind its bar or bracket. -/
def blockToken? (literal : Bool) (gs : List Glyph) (s : Layout) :
    Option (Layout × List Glyph) := do
  let (cs, rest) ← blockScalar literal s.indent gs
  let s ← s.dropPlace?
  some ({ s with keyAllowed := true }.emit (.scalar false (String.ofList cs.reverse)), rest)

/-- The next token, which begins with `g`. -/
def token? (s : Layout) (g : Glyph) (rest : List Glyph) : Option (Layout × List Glyph) := do
  let here := g :: rest
  let s := (← s.dropStalePlace? g).close g.column
  if g.column = 0 ∧ g.char = '%' then
    let (t, rest) ← directive? rest
    some (← s.emitBoundary? t, rest)
  else if Glyph.atDocumentMark '-' here then some (← s.emitBoundary? .documentStart, rest.drop 2)
  else if Glyph.atDocumentMark '.' here then some (← s.emitBoundary? .documentEnd, rest.drop 2)
  else match g.char with
    | '[' => some (← s.openFlow? g .flowSequenceStart, rest)
    | '\x7b' => some (← s.openFlow? g .flowMappingStart, rest)
    | ']' => some (← s.closeFlow? .flowSequenceEnd, rest)
    | '\x7d' => some (← s.closeFlow? .flowMappingEnd, rest)
    | ',' =>
      let s ← s.dropPlace?
      some ({ s with keyAllowed := true }.emit .flowEntry, rest)
    | '*' =>
      let (name, rest) ← anchorName? rest
      some (← s.emitNode? g (.reference name), rest)
    | '&' =>
      let (name, rest) ← anchorName? rest
      some (← s.emitNode? g (.anchor name), rest)
    | '!' =>
      let (t, rest) ← tagToken? s.inFlow rest
      some (← s.emitNode? g t, rest)
    | '\'' =>
      let (cs, rest) ← singleQuoted [] .none rest
      some (← s.emitNode? g (.scalar false (String.ofList cs.reverse)), rest)
    | '"' =>
      let (cs, rest) ← doubleQuoted [] (.text .none) rest
      some (← s.emitNode? g (.scalar false (String.ofList cs.reverse)), rest)
    | c =>
      if c = '-' ∧ atGap rest then
        some (← s.emitIndicator? g .blockSequenceStart .blockEntry true, rest)
      else if c = '?' ∧ (s.inFlow ∨ atGap rest) then
        some (← s.emitIndicator? g .blockMappingStart .key (!s.inFlow), rest)
      else if c = ':' ∧ (s.inFlow ∨ atGap rest) then some (← s.emitValue? g, rest)
      else if (c = '|' ∨ c = '>') ∧ !s.inFlow then s.blockToken? (c = '|') rest
      else if startsPlain s.inFlow c rest then do
        let s ← s.notePlace? g
        { s with keyAllowed := false }.plainToken? here
      else none

/-- The tokens up to the end of the text. Every token takes a glyph at least, so that `fuel` need
not be more than their number. -/
def finish? : (fuel : Nat) → Layout → List Glyph → Option (List Token)
  | 0, _, _ => none
  | fuel + 1, s, gs => do
    let (keyAllowed, gs) := skipGap s.inFlow s.keyAllowed false gs
    let s := { s with keyAllowed }
    match gs with
    | [] =>
      let s ← (s.close (-1)).dropPlace?
      some s.tokens.reverse
    | g :: rest =>
      let (s, rest) ← s.token? g rest
      finish? fuel s rest

end Layout

/-- The tokens of a text. -/
def Token.ofText? (text : String) : Option (List Token) := do
  let gs ← glyphs? text
  Layout.finish? (gs.length + 1) {} gs

end GpuFleet.Yaml
