/-!
The 32-bit FNV-1a digest, its decimal text, and the name-safe form of that text for suffixes of
object names.
-/
namespace GpuFleet.Digest

/-- One byte goes in by exclusive or, then the state is multiplied by the FNV prime modulo
`2 ^ 32`. -/
def fnvStep (state : UInt32) (byte : UInt8) : UInt32 := (state ^^^ byte.toUInt32) * 16777619

/-- The digest of a byte sequence, from the FNV offset basis. -/
def fnv (bytes : List UInt8) : UInt32 := bytes.foldl fnvStep 2166136261

/-- The digest of a text's UTF-8 bytes. -/
def ofText (s : String) : UInt32 := fnv s.toUTF8.toList

/-- Decimal digits. -/
def decimal (n : UInt32) : String := String.ofList (Nat.toDigits 10 n.toNat)

/-- The characters of generated names: no vowels, and none that looks like another. -/
def safeAlphabet : List Char := "bcdfghjklmnpqrstvwxz2456789".toList

/-- A character by its code modulo the size of the alphabet. -/
def safeChar (c : Char) : Char := safeAlphabet.getD (c.toNat % safeAlphabet.length) 'b'

/-- A short digest of a text that may end an object's name or a label value. -/
def nameSuffix (s : String) : String :=
  String.ofList ((decimal (ofText s)).toList.map safeChar)

end GpuFleet.Digest
