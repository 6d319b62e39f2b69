import GpuFleet.Misconfiguration
import GpuFleet.Number.Numeral
import GpuFleet.Text.Blank

/-!
The settings of the operator itself, which it takes from its environment. A variable that is unset
or blank takes a default.
-/
namespace GpuFleet

structure Settings where
  /-- The namespace of the operands. -/
  ns : String := "gpu-operator"
  manifestsDir : String := "/opt/gpu-operator/manifests"
  /-- Seconds from one pass to the next. -/
  interval : Nat := 300
deriving DecidableEq, Repr

namespace Settings

/-- A positive number of 64 bits. -/
def interval? (cs : List Char) : Option Nat := (Number.unsigned? 64 cs).filter (0 < ·)

/-- The settings of an environment. The interval may have white space around it; the other two
values are taken as they are. -/
def ofEnvironment (lookup : String → Option String) : Except Misconfiguration Settings :=
  let value? (key : String) : Option String := (lookup key).filter fun v => !Text.isBlankText v
  let standard : Settings := {}
  let ns := (value? "OPERATOR_NAMESPACE").getD standard.ns
  let manifestsDir := (value? "MANIFESTS_DIR").getD standard.manifestsDir
  match value? "RECONCILE_INTERVAL_SECS" with
  | none => .ok { ns, manifestsDir }
  | some text =>
    match interval? (Text.trim text.toList) with
    | some interval => .ok { ns, manifestsDir, interval }
    | none => .error (.badInterval text)

end Settings

end GpuFleet
