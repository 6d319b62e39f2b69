import GpuFleet.Yaml.Tag

/-!
The tokens of a YAML text. Indentation has become brackets: a block collection starts with a token
of its kind and ends with a block end.
-/
namespace GpuFleet.Yaml

inductive Token where
  /-- The version that a text says it is written in. -/
  | version (major minor : Nat)
  /-- A shorthand for the start of tags. -/
  | tagHandle (handle : String) (stem : List UInt8)
  | documentStart
  | documentEnd
  | blockSequenceStart
  | blockMappingStart
  | blockEnd
  | flowSequenceStart
  | flowSequenceEnd
  | flowMappingStart
  | flowMappingEnd
  | blockEntry
  | flowEntry
  | key
  | value
  | anchor (name : String)
  /-- Stands for the node with the anchor. -/
  | reference (name : String)
  | tag (handle : String) (suffix : List UInt8)
  | scalar (plain : Bool) (text : String)
deriving DecidableEq, Repr

end GpuFleet.Yaml
