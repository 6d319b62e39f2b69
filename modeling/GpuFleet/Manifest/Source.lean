import GpuFleet.Kube.FromYaml
import GpuFleet.Manifest.Error
import GpuFleet.Manifest.Render
import GpuFleet.Manifest.Tree

/-!
Manifests on disk: one directory for each operand, of the operand's name, with YAML files at any
depth. The DaemonSets in them are the desired ones.
-/
namespace GpuFleet.Manifest

open Kube (DaemonSet)

/-- The DaemonSets of a YAML text, in its order. Empty documents and objects of other kinds are
passed over, but they have to be YAML. -/
def daemonSets? (text : String) : Option (List DaemonSet) := do
  let documents ← Yaml.Value.documents? text
  (documents.filter fun v => !v.isNull && (v.get? "kind").bind (·.text?) == some "DaemonSet").mapM
    DaemonSet.ofYaml?

/-- Manifests below a directory, which messages call by its name. -/
structure Source where
  name : String
  root : Tree
  /-- What the reader of YAML says of a text that it refuses. -/
  complaint : String → String

namespace Source

/-- The whole path as a text. -/
def pathText (s : Source) (path : Path) : String := String.intercalate "/" (s.name :: path)

/-- The endings of the names of manifest files. -/
def manifestSuffixes : List String := [".yaml", ".yml", ".json"]

/-- The files at or below a path whose names end with one of the suffixes, in order. -/
def filesWithSuffix (s : Source) (suffixes : List String) (base : Path) :
    Except Error (List (Path × ByteArray)) :=
  match s.root.find? base with
  | some t => .ok (t.filesWithSuffix suffixes base)
  | none =>
    let above := (List.range base.length).map base.take
    let belowFile := above.any fun path => (s.root.find? path).any (!·.isDir)
    .error (if belowFile then .notADirectory (s.pathText base) else .missing (s.pathText base))

/-- The DaemonSets of a file. -/
def readFile (s : Source) (path : Path) (content : ByteArray) : Except Error (List DaemonSet) :=
  match String.fromUTF8? content with
  | none => .error (.notText (s.pathText path))
  | some text =>
    match daemonSets? text with
    | none => .error (.malformed (s.pathText path) (s.complaint text))
    | some ds => .ok ds

/-- The DaemonSets of several files, or the error of the first file that has one. -/
def readFiles (s : Source) (files : List (Path × ByteArray)) : Except Error (List DaemonSet) := do
  return (← files.mapM fun (path, content) => s.readFile path content).flatten

/-- The DaemonSets of an operand as its manifests have them. One without a directory has none. -/
def drafts (s : Source) (operand : Operand) : Except Error (List DaemonSet) :=
  match s.root.find? [operand.name] with
  | some (.dir entries) =>
    s.readFiles (Tree.filesWithSuffix manifestSuffixes [operand.name] (.dir entries))
  | some (.file _) | none => .ok []

/-- The rendered DaemonSets of an operand. -/
def desired (s : Source) (operand : Operand) (ctx : Context) : Except Error (List DaemonSet) :=
  (s.drafts operand).map (·.map (render operand ctx))

/-- The directories that no operand reads, in order. -/
def unknownDirs (t : Tree) : List String :=
  match t with
  | .file _ => []
  | .dir entries =>
    let unknown := entries.filter fun (name, t) => t.isDir && (Operand.ofName? name).isNone
    (unknown.map (·.1)).mergeSort (· ≤ ·)

end Source

end GpuFleet.Manifest
