import GpuFleet.Number.Digits
import GpuFleet.Text.Utf8

/-!
The targets of requests: the path and the query of a URI. Names go into the text of a target as they
are, so that a question mark in one begins the query, and a number sign cuts off the rest.
-/
namespace GpuFleet.Api

structure Target where
  path : String
  /-- The names and values of the query, with their escapes undone. -/
  query : List (String × String)
deriving DecidableEq, Repr

namespace Target

/-- Why a text is no target. -/
inductive Fault where
  | badCharacter
  | tooLong
deriving DecidableEq, Repr

def Fault.message : Fault → String
  | .badCharacter => "invalid uri character"
  | .tooLong => "uri too long"

/-- The bytes of the longest target. -/
def maxBytes : Nat := 65534

/-- The characters of a path. -/
def isPathChar (c : Char) : Bool :=
  0x21 ≤ c.toNat && c ∉ ['#', '<', '>', '?', '\x60']

/-- The characters of a query. -/
def isQueryChar (c : Char) : Bool :=
  0x21 ≤ c.toNat && c ∉ ['"', '#', '<', '>']

/-- The octets of a part of a query: a percent sign before two digits gives one in hexadecimal, and
a plus sign stands for a space. -/
def partOctets : List Char → List UInt8
  | '%' :: h :: l :: rest =>
    match Number.hexValue? h, Number.hexValue? l with
    | some high, some low => UInt8.ofNat (high * 16 + low) :: partOctets rest
    | _, _ => UInt8.ofNat '%'.toNat :: partOctets (h :: l :: rest)
  | '+' :: rest => UInt8.ofNat ' '.toNat :: partOctets rest
  | c :: rest => String.utf8EncodeChar c ++ partOctets rest
  | [] => []

def partText (cs : List Char) : String := Text.Utf8.decode (partOctets cs)

/-- The name and the value of a piece of a query, which the first equals sign separates. -/
def pair (piece : List Char) : String × String :=
  let (name, value) := piece.span (· ≠ '=')
  (partText name, partText (value.drop 1))

/-- The pairs of a query, which stand between ampersands. -/
def pairs (query : List Char) : List (String × String) :=
  ((query.splitOn '&').filter (· ≠ [])).map pair

/-- The target that a text writes. -/
def ofText (text : String) : Except Fault Target :=
  if maxBytes < text.utf8ByteSize then .error .tooLong
  else
    let cs := text.toList.takeWhile (· ≠ '#')
    let (path, query) := cs.span (· ≠ '?')
    let query := query.drop 1
    if path.all isPathChar && query.all isQueryChar then
      .ok ⟨String.ofList path, pairs query⟩
    else .error .badCharacter

end Target

end GpuFleet.Api
