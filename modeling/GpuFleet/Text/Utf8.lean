/-!
Text from octets that need not be UTF-8. The longest start of a character that cannot be finished is
replaced by one U+FFFD.
-/
namespace GpuFleet.Text.Utf8

/-- The start of a character: how many octets are still to come, between which bounds the next one
lies, and the bits so far. -/
structure Pending where
  due : Nat
  low : Nat
  high : Nat
  bits : Nat
deriving DecidableEq, Repr

/-- The character U+FFFD, which stands for octets that are no text. -/
def replacement : Char := '\ufffd'

/-- A first octet: the characters that are complete with it, and the start that it makes. The bounds
of a second octet rule out forms that are too long, surrogates, and code points beyond the last. -/
def first (octet : Nat) : List Char × Option Pending :=
  if octet < 0x80 then ([Char.ofNat octet], none)
  else if 0xc2 ≤ octet ∧ octet ≤ 0xdf then ([], some ⟨1, 0x80, 0xbf, octet % 0x20⟩)
  else if 0xe0 ≤ octet ∧ octet ≤ 0xef then
    ([], some ⟨2, if octet = 0xe0 then 0xa0 else 0x80, if octet = 0xed then 0x9f else 0xbf,
      octet % 0x10⟩)
  else if 0xf0 ≤ octet ∧ octet ≤ 0xf4 then
    ([], some ⟨3, if octet = 0xf0 then 0x90 else 0x80, if octet = 0xf4 then 0x8f else 0xbf,
      octet % 0x08⟩)
  else ([replacement], none)

/-- The next octet. One that cannot go on with the start begins anew. -/
def next (pending : Option Pending) (octet : Nat) : List Char × Option Pending :=
  match pending with
  | none => first octet
  | some p =>
    if p.low ≤ octet ∧ octet ≤ p.high then
      let bits := p.bits * 0x40 + octet % 0x40
      if p.due ≤ 1 then ([Char.ofNat bits], none) else ([], some ⟨p.due - 1, 0x80, 0xbf, bits⟩)
    else
      let (cs, p) := first octet
      (replacement :: cs, p)

/-- The characters of octets, behind the start of one. -/
def decodeFrom (pending : Option Pending) : List UInt8 → List Char
  | [] => if pending.isSome then [replacement] else []
  | b :: octets =>
    let (cs, pending) := next pending b.toNat
    cs ++ decodeFrom pending octets

/-- The text of octets. -/
def decode (octets : List UInt8) : String := String.ofList (decodeFrom none octets)

end GpuFleet.Text.Utf8
