/-!
Trees of files. A path is the list of the names on the way down; paths are ordered name by name, so
that everything in a directory comes before a name that goes on where the directory's name ends.
-/
namespace GpuFleet.Manifest

abbrev Path := List String

inductive Tree where
  | file (content : ByteArray)
  | dir (entries : List (String × Tree))

namespace Tree

def emptyDir : Tree := .dir []

def isDir : Tree → Bool
  | .dir _ => true
  | .file _ => false

/-- The entries with the one of the name replaced, or a new one at the end. -/
def setEntry (name : String) (t : Tree) : List (String × Tree) → List (String × Tree)
  | [] => [(name, t)]
  | (n, u) :: rest => if n = name then (name, t) :: rest else (n, u) :: setEntry name t rest

/-- A tree below the directories of a path. -/
def nest (path : Path) (t : Tree) : Tree := path.foldr (fun name t => .dir [(name, t)]) t

/-- What is at the path. -/
def find? : Path → Tree → Option Tree
  | [], t => some t
  | _ :: _, .file _ => none
  | name :: path, .dir entries => (entries.lookup name).bind (find? path)

/-- The tree with a file or a directory at the path, below directories that are made where they are
missing. A file takes the place of a file, and a directory that is there stays as it is. -/
def put? (new : Tree) : Path → Tree → Option Tree
  | [], .file _ => if new.isDir then none else some new
  | [], .dir entries => if new.isDir then some (.dir entries) else none
  | _ :: _, .file _ => none
  | name :: path, .dir entries => do
    let t ← match entries.lookup name with
      | none => some (nest path new)
      | some t => put? new path t
    some (.dir (setEntry name t entries))

/-- The tree without the file at the path. -/
def removeFile? : Path → Tree → Option Tree
  | [], _ => none
  | _ :: _, .file _ => none
  | [name], .dir entries =>
    match entries.lookup name with
    | some (.file _) => some (.dir (entries.filter (·.1 ≠ name)))
    | some (.dir _) | none => none
  | name :: path, .dir entries => do
    let t ← removeFile? path (← entries.lookup name)
    some (.dir (setEntry name t entries))

mutual

/-- The files of a tree with their paths. -/
def files : Tree → List (Path × ByteArray)
  | .file content => [([], content)]
  | .dir entries => entryFiles entries

def entryFiles : List (String × Tree) → List (Path × ByteArray)
  | [] => []
  | (name, t) :: entries =>
    (files t).map (fun (path, content) => (name :: path, content)) ++ entryFiles entries

end

/-- Paths in order. -/
def pathLe (a b : Path × ByteArray) : Bool := (compare a.1 b.1).isLE

/-- The name ends with one of the suffixes. -/
def hasSuffix (suffixes : List String) (name : String) : Bool :=
  suffixes.any fun s => s.toList.reverse.isPrefixOf name.toList.reverse

/-- The files below a place whose names end with one of the suffixes, in the order of their paths.
The place itself counts, by its own name, if it is a file. -/
def filesWithSuffix (suffixes : List String) (base : Path) (t : Tree) : List (Path × ByteArray) :=
  let files := t.files.map fun (path, content) => (base ++ path, content)
  (files.filter fun (path, _) => path.getLast?.any (hasSuffix suffixes)).mergeSort pathLe

end Tree

end GpuFleet.Manifest
