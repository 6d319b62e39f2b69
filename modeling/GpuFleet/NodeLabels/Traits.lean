import GpuFleet.Kube.Labels
import GpuFleet.NodeLabels.Vocabulary

/-!
What a node's labels say about it. Where a label is missing the answer is no.
-/
namespace GpuFleet.NodeLabels

open Kube (Labels)

/-- The label `key` is there and has that value. -/
def holds (labels : Labels) (key value : String) : Bool := labels[key]? == some value

/-- Discovery has found a GPU. -/
def hasGpu (labels : Labels) : Bool := pciKeys.any (holds labels · "true")

/-- Discovery has labelled the node at all. -/
def hasDiscovery (labels : Labels) : Bool :=
  labels.keys.any fun k => discoveryStart.toList.isPrefixOf k.toList

/-- The node carries the operator's mark. -/
def isMarkedGpu (labels : Labels) : Bool := holds labels gpuPresentKey "true"

/-- The MIG manager may run. -/
def hasMigManager (labels : Labels) : Bool := holds labels DeployLabel.migManager.key "true"

/-- A vGPU host driver runs. -/
def isVgpuHost (labels : Labels) : Bool :=
  match labels[vgpuHostDriverKey]? with
  | some version => !version.isEmpty
  | none => false

/-- Fragments of the names of GPU models that can be partitioned, in lower case. -/
def partitionableModels : List String := ["a100", "a30", "h100", "h200"]

/-- The pattern stands somewhere in the text. -/
def occursIn (pattern : List Char) : List Char → Bool
  | [] => pattern.isEmpty
  | c :: cs => pattern.isPrefixOf (c :: cs) || occursIn pattern cs

/-- The model's name has one of the fragments in it, in any letter case. No character outside ASCII
has a lower case that occurs in a fragment. -/
def isPartitionableModel (product : String) : Bool :=
  partitionableModels.any fun model => occursIn model.toList (product.toList.map Char.toLower)

/-- The GPU can be partitioned. Never so on a vGPU host; otherwise the label that says so decides
where there is one, and the model's name where there is none. -/
def isMigCapable (labels : Labels) : Bool :=
  if isVgpuHost labels then false
  else match labels[migCapableKey]? with
    | some value => value == "true"
    | none =>
      match labels[productKey]? with
      | some product => isPartitionableModel product
      | none => false

/-- The node must not run operands. -/
def areOperandsDisabled (labels : Labels) : Bool := holds labels operandsKey "false"

end GpuFleet.NodeLabels
