import GpuFleet.Json.Reader
import GpuFleet.Number.Digits
import GpuFleet.Yaml.Glyph
import GpuFleet.Yaml.Token

/-!
Tokens that name something: anchors, references, tags, and the directives before a document.
-/
namespace GpuFleet.Yaml

open Glyph (atGap headIn skipBlanks)

/-- The characters of the names of anchors, tag handles and directives. -/
def isNameChar (c : Char) : Bool := c.isAlphanum || c == '_' || c == '-'

/-- The name at the front, and the rest. -/
def spanName (gs : List Glyph) : String × List Glyph :=
  let (name, rest) := gs.span (isNameChar ·.char)
  (String.ofList (name.map (·.char)), rest)

/-- The name of an anchor or a reference, behind its sign. -/
def anchorName? (gs : List Glyph) : Option (String × List Glyph) :=
  let (name, rest) := spanName gs
  if name ≠ "" ∧ (atGap rest || headIn ['?', ':', ',', ']', '\x7d', '%', '@', '\x60'] rest) then
    some (name, rest)
  else none

/-- The characters of a tag; three more of them where it is written out in full. -/
def isTagChar (full : Bool) (c : Char) : Bool :=
  isNameChar c || ";/?:@&=+$.%!~*'()".toList.contains c || (full && [',', '[', ']'].contains c)

/-- The character with the code, if there is one. -/
def charOfCode? (n : Nat) : Option Char := if n.isValidChar then some (Char.ofNat n) else none

/-- How many octets follow the first one of a character; nothing where none starts with it. -/
def followers? (octet : Nat) : Option Nat :=
  if octet < 0x80 then some 0
  else if octet / 0x20 = 6 then some 1
  else if octet / 0x10 = 14 then some 2
  else if octet / 0x08 = 30 then some 3
  else none

/-- The octets of a tag at the front. A percent sign starts one in hexadecimal; of those that belong
to one character, `due` are still to come. -/
def tagOctets (full : Bool) (due : Nat) : List Glyph → Option (List UInt8 × List Glyph)
  | p :: h :: l :: rest =>
    if p.char = '%' then do
      let octet := (← Number.hexValue? h.char) * 16 + (← Number.hexValue? l.char)
      let due ← match due with
        | 0 => followers? octet
        | due + 1 => if octet / 0x40 = 2 then some due else none
      let (octets, rest) ← tagOctets full due rest
      some (UInt8.ofNat octet :: octets, rest)
    else if due ≠ 0 then none
    else if isTagChar full p.char then do
      let (octets, rest) ← tagOctets full 0 (h :: l :: rest)
      some (UInt8.ofNat p.char.toNat :: octets, rest)
    else some ([], p :: h :: l :: rest)
  | g :: rest =>
    if g.char = '%' ∨ due ≠ 0 then none
    else if isTagChar full g.char then do
      let (octets, rest) ← tagOctets full 0 rest
      some (UInt8.ofNat g.char.toNat :: octets, rest)
    else some ([], g :: rest)
  | [] => if due = 0 then some ([], []) else none

/-- A tag, behind its exclamation mark: in full between angle brackets, with a handle that ends in
another exclamation mark, or local. The mark alone is a tag of its own. -/
def tagToken? (inFlow : Bool) (gs : List Glyph) : Option (Token × List Glyph) := do
  let (token, rest) ← match gs with
    | ⟨'<', _, _, _⟩ :: gs => do
      let (octets, rest) ← tagOctets true 0 gs
      if octets = [] then none
      else match rest with
        | ⟨'>', _, _, _⟩ :: rest => some (Token.tag "" octets, rest)
        | _ => none
    | gs => do
      let (name, rest) := spanName gs
      match rest with
      | ⟨'!', _, _, _⟩ :: rest =>
        let (octets, rest) ← tagOctets false 0 rest
        if octets = [] then none else some (Token.tag ("!" ++ name ++ "!") octets, rest)
      | rest =>
        let (octets, rest) ← tagOctets false 0 rest
        let suffix := Tag.octetsOf name ++ octets
        let isBare := Tag.untilZero suffix = []
        some (if isBare then Token.tag "" Tag.bare else Token.tag "!" suffix, rest)
  if atGap rest || (inFlow && headIn [','] rest) then some (token, rest) else none

/-- A number of one to nine digits. -/
def versionNumber? (gs : List Glyph) : Option (Nat × List Glyph) :=
  let (digits, rest) := gs.span (·.char.isDigit)
  if digits = [] ∨ 9 < digits.length then none
  else some (Number.digitsValue (digits.map (·.char)), rest)

/-- The version behind its directive's name. -/
def versionToken? (gs : List Glyph) : Option (Token × List Glyph) := do
  let (major, rest) ← versionNumber? (skipBlanks gs)
  match rest with
  | ⟨'.', _, _, _⟩ :: rest =>
    let (minor, rest) ← versionNumber? rest
    some (.version major minor, rest)
  | _ => none

/-- The handle and what it stands for, behind their directive's name. -/
def tagHandleToken? (gs : List Glyph) : Option (Token × List Glyph) := do
  match skipBlanks gs with
  | ⟨'!', _, _, _⟩ :: gs =>
    let (name, rest) := spanName gs
    let (handle, rest) ← match rest with
      | ⟨'!', _, _, _⟩ :: rest => some ("!" ++ name ++ "!", rest)
      | rest => if name = "" then some ("!", rest) else none
    match rest with
    | g :: _ =>
      if !isBlank g.char then none
      else
        let (octets, rest) ← tagOctets true 0 (skipBlanks rest)
        if octets ≠ [] ∧ atGap rest then some (.tagHandle handle octets, rest) else none
    | [] => none
  | _ => none

/-- A directive, behind its percent sign, and the end of its line. -/
def directive? (gs : List Glyph) : Option (Token × List Glyph) := do
  let (name, rest) := spanName gs
  if name = "" ∨ !atGap rest then none
  else
    let (token, rest) ← match name with
      | "YAML" => versionToken? rest
      | "TAG" => tagHandleToken? rest
      | _ => none
    some (token, ← Glyph.skipLineEnd? rest)

end GpuFleet.Yaml
