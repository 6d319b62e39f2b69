import GpuFleet.Yaml.Glyph

/-!
Block scalars: the lines below a header, as far as they are indented. In a literal scalar every line
break counts; in a folded one the breaks between two lines that start with no blank are folded.
-/
namespace GpuFleet.Yaml

/-- What becomes of the breaks at the end of a block scalar: all are dropped, one is kept, or all
are kept. -/
inductive Chomping where
  | strip
  | clip
  | keep
deriving DecidableEq, Repr

/-- What a header asks for; an indentation is relative to that of the surroundings. -/
structure BlockHeader where
  chomping : Chomping := .clip
  indentation : Option Nat := none

def chomping? : Char → Option Chomping
  | '-' => some .strip
  | '+' => some .keep
  | _ => none

/-- An indentation from one to nine. -/
def indentationDigit? (c : Char) : Option Nat :=
  if c.isDigit ∧ c ≠ '0' then some (c.toNat - '0'.toNat) else none

/-- The header behind its bar or bracket: the two indicators in either order, and the end of the
line. An indentation of zero is none. -/
def BlockHeader.read? (gs : List Glyph) : Option (BlockHeader × List Glyph) := do
  let (header, rest) : BlockHeader × List Glyph := match gs with
    | g :: rest =>
      match chomping? g.char, indentationDigit? g.char with
      | some chomping, _ =>
        match rest with
        | h :: tail =>
          match indentationDigit? h.char with
          | some n => (⟨chomping, some n⟩, tail)
          | none => (⟨chomping, none⟩, rest)
        | [] => (⟨chomping, none⟩, rest)
      | none, some n =>
        match rest with
        | h :: tail =>
          match chomping? h.char with
          | some chomping => (⟨chomping, some n⟩, tail)
          | none => (⟨.clip, some n⟩, rest)
        | [] => (⟨.clip, some n⟩, rest)
      | none, none => ({}, gs)
    | [] => ({}, gs)
  some (header, ← Glyph.skipLineEnd? rest)

/-- A block scalar half read. The characters done and the breaks passed are kept latest first. -/
structure BlockState where
  done : List Char := []
  /-- The break that ended the line before. -/
  lineBreak : Option Char := none
  /-- The breaks of the empty lines since then. -/
  emptyLines : List Char := []
  /-- The line before started with a blank. -/
  wasBlank : Bool := false
  /-- The column of the text, as soon as it is known. -/
  indent : Option Nat
  /-- The furthest column that the indentation of an empty line has reached. -/
  reach : Nat := 0
  /-- Within a line, behind its indentation. -/
  inLine : Bool := false

namespace BlockState

/-- A line of text begins. -/
def beginLine (literal : Bool) (startsBlank : Bool) (s : BlockState) : BlockState :=
  let folds := !literal && s.lineBreak == some '\n' && !s.wasBlank && !startsBlank
  let done :=
    if folds then (if s.emptyLines = [] then ' ' :: s.done else s.emptyLines ++ s.done)
    else s.emptyLines ++ s.lineBreak.toList ++ s.done
  { s with done, lineBreak := none, emptyLines := [], wasBlank := startsBlank, inLine := true }

/-- The text with the breaks at its end as the header has it, latest character first. -/
def finish (chomping : Chomping) (s : BlockState) : List Char :=
  match chomping with
  | .strip => s.done
  | .clip => s.lineBreak.toList ++ s.done
  | .keep => s.emptyLines ++ s.lineBreak.toList ++ s.done

end BlockState

/-- The lines of a block scalar. The first line that is not empty settles the column of the text,
which is at least `least`. -/
def blockLines (literal : Bool) (chomping : Chomping) (least : Nat) (s : BlockState) :
    List Glyph → Option (List Char × List Glyph)
  | [] => some (s.finish chomping, [])
  | g :: rest =>
    if s.inLine then
      if isBreak g.char then
        blockLines literal chomping least { s with lineBreak := some g.char, inLine := false } rest
      else blockLines literal chomping least { s with done := g.char :: s.done } rest
    else
      let inMargin := s.indent.all (g.column < ·)
      if g.char = ' ' ∧ inMargin then
        blockLines literal chomping least { s with reach := max s.reach (g.column + 1) } rest
      else if g.char = '\t' ∧ inMargin then none
      else if isBreak g.char then
        blockLines literal chomping least
          { s with emptyLines := g.char :: s.emptyLines, reach := max s.reach g.column } rest
      else
        let indent := s.indent.getD (max s.reach least)
        if g.column = indent then
          let s := { s with indent := some indent }.beginLine literal (isBlank g.char)
          blockLines literal chomping least { s with done := g.char :: s.done } rest
        else some (s.finish chomping, g :: rest)

/-- A block scalar, behind its bar or bracket, in surroundings that are indented by `outer`, which
is -1 at the top. -/
def blockScalar (literal : Bool) (outer : Int) (gs : List Glyph) :
    Option (List Char × List Glyph) := do
  let (header, rest) ← BlockHeader.read? gs
  let base := outer.toNat
  let indent := header.indentation.map (base + ·)
  let least := max (outer + 1).toNat 1
  blockLines literal header.chomping least { indent } rest

end GpuFleet.Yaml
