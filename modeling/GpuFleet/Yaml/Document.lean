import GpuFleet.Yaml.Node
import GpuFleet.Yaml.Scalar

/-!
From nodes to values: references are replaced by the nodes that they stand for.

The anchors of a document have slots. A new anchor takes the slot whose number is that of the names
so far; a name that is given again moves to a new slot, and where two anchors meet in one slot, the
later node has it. A document may be at most 128 collections deep after the replacement, and needs
no more replacements than a hundred times the number of its parts.
-/
namespace GpuFleet.Yaml

/-- A node whose references are slots. -/
inductive Linked where
  | reference (slot : Nat)
  | scalar (tag : Option Tag) (plain : Bool) (text : String)
  | sequence (tag : Option Tag) (items : List Linked)
  | mapping (tag : Option Tag) (entries : List (Linked × Linked))

/-- A node with an anchor: its slot, and the number of anchors that began before it. -/
structure Anchored where
  slot : Nat
  serial : Nat
  node : Linked

/-- The names known so far with their slots, and the anchored nodes that are complete. -/
structure Anchors where
  slots : List (String × Nat) := []
  serial : Nat := 0
  nodes : List Anchored := []

namespace Anchors

/-- Takes a slot for the name. -/
def declare (name : String) (a : Anchors) : Nat × Anchors :=
  let slot := a.slots.length
  (slot, { a with slots := (name, slot) :: a.slots.filter (·.1 ≠ name), serial := a.serial + 1 })

/-- The node that a slot holds in the end. -/
def holder? (a : Anchors) (slot : Nat) : Option Linked :=
  let candidates := a.nodes.filter (·.slot = slot)
  (candidates.find? fun n => candidates.all (·.serial ≤ n.serial)).map (·.node)

end Anchors

namespace Node

mutual

/-- The node with slots for names. A reference to a name that is not known yet is an error. -/
def link? (a : Anchors) : Node → Option (Linked × Anchors)
  | .reference name => do some (.reference (← a.slots.lookup name), a)
  | .scalar anchor tag plain text =>
    let (place, a) := begin? a anchor
    some (finish place (.scalar tag plain text) a)
  | .sequence anchor tag items => do
    let (place, a) := begin? a anchor
    let (items, a) ← linkItems? a items
    some (finish place (.sequence tag items) a)
  | .mapping anchor tag entries => do
    let (place, a) := begin? a anchor
    let (entries, a) ← linkEntries? a entries
    some (finish place (.mapping tag entries) a)
where
  /-- The slot and the serial number of a node that begins. -/
  begin? (a : Anchors) : Option String → Option (Nat × Nat) × Anchors
    | none => (none, a)
    | some name =>
      let (slot, b) := a.declare name
      (some (slot, a.serial), b)
  /-- A node is complete. -/
  finish (place : Option (Nat × Nat)) (node : Linked) (a : Anchors) : Linked × Anchors :=
    match place with
    | none => (node, a)
    | some (slot, serial) => (node, { a with nodes := ⟨slot, serial, node⟩ :: a.nodes })

def linkItems? (a : Anchors) : List Node → Option (List Linked × Anchors)
  | [] => some ([], a)
  | n :: items => do
    let (n, a) ← link? a n
    let (items, a) ← linkItems? a items
    some (n :: items, a)

def linkEntries? (a : Anchors) : List (Node × Node) → Option (List (Linked × Linked) × Anchors)
  | [] => some ([], a)
  | (k, v) :: entries => do
    let (k, a) ← link? a k
    let (v, a) ← link? a v
    let (entries, a) ← linkEntries? a entries
    some ((k, v) :: entries, a)

end

mutual

/-- The number of parts: a collection counts at its start and at its end. -/
def parts : Node → Nat
  | .reference _ | .scalar .. => 1
  | .sequence _ _ items => partsOfItems items + 2
  | .mapping _ _ entries => partsOfEntries entries + 2

def partsOfItems : List Node → Nat
  | [] => 0
  | n :: items => parts n + partsOfItems items

def partsOfEntries : List (Node × Node) → Nat
  | [] => 0
  | (k, v) :: entries => parts k + parts v + partsOfEntries entries

end

end Node

namespace Value

/-- The value under the name of its local tag, if it has one. -/
def withTag (tag : Option Tag) (v : Value) : Value :=
  match tag.bind (·.localName?) with
  | none => v
  | some name => .tagged name v

/-- The value of a scalar. Local tags say nothing of what it stands for. -/
def ofScalar? (tag : Option Tag) (plain : Bool) (s : String) : Option Value :=
  match tag with
  | some t =>
    if t.isLocal then (unmarked? plain s).map (withTag tag) else ofCommon? t s
  | none => unmarked? plain s

/-- The value of a node in a document with the anchors: at most `depth` collections deep, and with
at most as many replacements as are left. -/
def ofLinked? (anchors : Anchors) : (depth : Nat) → Linked → StateT Nat Option Value
  | depth, n => do
    let n ← match n with
      | .reference slot => do
        match ← get with
        | 0 => failure
        | left + 1 =>
          set left
          StateT.lift (anchors.holder? slot)
      | n => pure n
    match n, depth with
    | .scalar tag plain s, _ => StateT.lift (ofScalar? tag plain s)
    | .sequence tag items, depth + 1 => do
      let items ← items.mapM (ofLinked? anchors depth)
      pure (withTag tag (.sequence items))
    | .mapping tag entries, depth + 1 => do
      let entries ← entries.mapM fun (k, v) => do
        let k ← ofLinked? anchors depth k
        let v ← ofLinked? anchors depth v
        pure (k, v)
      if distinctKeys entries then pure (withTag tag (.mapping entries)) else failure
    | _, _ => failure

/-- The value of a document. -/
def ofNode? (root : Node) : Option Value := do
  let (linked, anchors) ← root.link? {}
  let (v, _) ← (ofLinked? anchors 128 linked).run (100 * root.parts)
  some v

/-- The values of the documents of a text; nothing where it is no YAML. -/
def documents? (text : String) : Option (List Value) := do
  (← Node.ofText? text).mapM ofNode?

end Value

end GpuFleet.Yaml
