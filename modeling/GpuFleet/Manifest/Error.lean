/-!
What can go wrong with manifests. An error names the file by its whole path.
-/
namespace GpuFleet.Manifest

inductive Error where
  /-- The file is not UTF-8. -/
  | notText (path : String)
  /-- The file is no YAML, or one of its DaemonSets is not well formed; the reason is what the
  reader of YAML says of it. -/
  | malformed (path reason : String)
  /-- There is nothing at the path. -/
  | missing (path : String)
  /-- The path goes on below a file. -/
  | notADirectory (path : String)
deriving DecidableEq, Repr

namespace Error

/-- What a walk through a tree says of a path. -/
def walkMessage (path cause : String) : String :=
  "failed to walk manifest directory: IO error for operation on " ++ path ++ ": " ++ cause

def message : Error → String
  | .notText path => "failed to read " ++ path ++ ": stream did not contain valid UTF-8"
  | .malformed path reason => "failed to parse " ++ path ++ ": " ++ reason
  | .missing path => walkMessage path "No such file or directory (os error 2)"
  | .notADirectory path => walkMessage path "Not a directory (os error 20)"

end Error

end GpuFleet.Manifest
