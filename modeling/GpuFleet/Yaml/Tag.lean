/-!
The tags of YAML nodes. A tag is made of octets that need not be a text, because an escape can give
any of them. An octet of zero ends it.
-/
namespace GpuFleet.Yaml

structure Tag where
  octets : List UInt8
deriving DecidableEq, Repr

namespace Tag

/-- The octets of a text. -/
def octetsOf (s : String) : List UInt8 := s.toUTF8.toList

/-- The text of octets, if they are one. -/
def textOf? (octets : List UInt8) : Option String := String.fromUTF8? ⟨octets.toArray⟩

/-- The octets before the first zero. -/
def untilZero (octets : List UInt8) : List UInt8 := octets.takeWhile (· ≠ 0)

/-- The tag that starts with `stem` and ends with `suffix`. -/
def ofParts (stem suffix : List UInt8) : Tag := ⟨untilZero stem ++ untilZero suffix⟩

/-- The octet of an exclamation mark. -/
def mark : UInt8 := 0x21

/-- The exclamation mark alone, which is a tag of its own. -/
def bare : List UInt8 := [mark]

/-- A local tag starts with an exclamation mark; all others are known everywhere. -/
def isLocal (t : Tag) : Bool := t.octets.head? == some mark

/-- The octets without an exclamation mark in front, unless that is all of them. -/
def dropMark (octets : List UInt8) : List UInt8 :=
  match octets with
  | c :: rest => if c = mark ∧ rest ≠ [] then rest else c :: rest
  | [] => []

/-- The name of a local tag, if it is a text. Names that differ in one more mark are the same. -/
def localName? (t : Tag) : Option String :=
  if t.isLocal then textOf? (dropMark (dropMark t.octets)) else none

/-- The text of the tag, if it is one. -/
def text? (t : Tag) : Option String := textOf? t.octets

end Tag

end GpuFleet.Yaml
