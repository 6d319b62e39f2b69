import GpuFleet.Json.Basic
import GpuFleet.Number.Shortest

/-!
The compact text of a JSON value: no white space, and of the characters of a string only those
escaped that must be. The canonical text is the compact text of the value with the members of every
object in the order of their names.

A writer puts its text in front of a text that follows, so that texts can be taken apart again from
the left.
-/
namespace GpuFleet

namespace Number

def chars : Number → List Char
  | .int n => (toString n).toList
  | .real x => x.chars

end Number

namespace Json

/-- A hexadecimal digit in lower case. -/
def hexDigit (n : Nat) : Char := Nat.digitChar n

/-- One character of a string between quotes. -/
def escaped (c : Char) : List Char :=
  if c = '"' then ['\\', '"']
  else if c = '\\' then ['\\', '\\']
  else if c = '\x08' then ['\\', 'b']
  else if c = '\x0c' then ['\\', 'f']
  else if c = '\n' then ['\\', 'n']
  else if c = '\r' then ['\\', 'r']
  else if c = '\t' then ['\\', 't']
  else if c.toNat < 0x20 then
    ['\\', 'u', '0', '0', hexDigit (c.toNat / 16), hexDigit (c.toNat % 16)]
  else [c]

/-- The characters of a string and its closing quote, before `rest`. -/
def writeChars (rest : List Char) : List Char → List Char
  | [] => '"' :: rest
  | c :: cs => escaped c ++ writeChars rest cs

/-- A string in quotes, before `rest`. -/
def writeString (s : String) (rest : List Char) : List Char := '"' :: writeChars rest s.toList

mutual

/-- The compact text of a value, before `rest`. -/
def write : Json → List Char → List Char
  | .null, rest => "null".toList ++ rest
  | .bool true, rest => "true".toList ++ rest
  | .bool false, rest => "false".toList ++ rest
  | .number n, rest => n.chars ++ rest
  | .string s, rest => writeString s rest
  | .array items, rest => '[' :: writeItems items true rest
  | .object members, rest => '\x7b' :: writeMembers members true rest

/-- The items that are left, each after a comma unless it is the first, and the bracket. -/
def writeItems : List Json → (first : Bool) → List Char → List Char
  | [], _, rest => ']' :: rest
  | v :: items, true, rest => write v (writeItems items false rest)
  | v :: items, false, rest => ',' :: write v (writeItems items false rest)

/-- The members that are left, each after a comma unless it is the first, and the brace. -/
def writeMembers : List (String × Json) → (first : Bool) → List Char → List Char
  | [], _, rest => '\x7d' :: rest
  | (k, v) :: members, true, rest =>
    writeString k (':' :: write v (writeMembers members false rest))
  | (k, v) :: members, false, rest =>
    ',' :: writeString k (':' :: write v (writeMembers members false rest))

end

/-- The compact text of a value. -/
def text (v : Json) : String := String.ofList (v.write [])

/-- The member placed before the first one whose name is greater, in place of one of its name. -/
def insertSorted (key : String) (v : Json) : List (String × Json) → List (String × Json)
  | [] => [(key, v)]
  | (k, w) :: rest =>
    if key < k then (key, v) :: (k, w) :: rest
    else if k = key then (key, v) :: rest
    else (k, w) :: insertSorted key v rest

mutual

/-- The value with the members of every object ascending by name, one for each name. -/
def sorted : Json → Json
  | .array items => .array (sortedItems items)
  | .object members => .object (sortedMembers members)
  | .null => .null
  | .bool b => .bool b
  | .number n => .number n
  | .string s => .string s

def sortedItems : List Json → List Json
  | [] => []
  | v :: items => sorted v :: sortedItems items

def sortedMembers : List (String × Json) → List (String × Json)
  | [] => []
  | (k, v) :: members => insertSorted k (sorted v) (sortedMembers members)

end

/-- The text by which values are compared and digested. -/
def canonical (v : Json) : String := v.sorted.text

end Json

end GpuFleet
