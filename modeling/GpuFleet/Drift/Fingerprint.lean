import GpuFleet.Digest.Object
import GpuFleet.Drift.Projection

/-!
Fingerprints of DaemonSets. The fingerprint of the object that was applied last is kept on the live
object as an annotation; an object is applied again exactly if its own fingerprint is another one.
-/
namespace GpuFleet.Drift

/-- The annotation that holds the fingerprint of the object applied last. -/
def fingerprintKey : String := "nvidia.com/last-applied-hash"

/-- The text that the fingerprint digests. -/
def fingerprintText (d : Kube.DaemonSet) : String :=
  Digest.sparseText (Facts.ofDaemonSet d).members

/-- The sparse digest of the tracked fields. -/
def fingerprint (d : Kube.DaemonSet) : String := Digest.decimal (Digest.ofText (fingerprintText d))

/-- The object with its fingerprint among its annotations. -/
def stamp (d : Kube.DaemonSet) : Kube.DaemonSet := d.annotate fingerprintKey (fingerprint d)

/-- What to do with a desired object. -/
inductive Decision where
  | apply
  | skip
deriving DecidableEq, Repr

/-- Skips exactly if the live object carries the fingerprint; there are no annotations where there
is no live object. -/
def decision (fingerprint : String) (live : Option Kube.Labels) : Decision :=
  if live.bind (·[fingerprintKey]?) = some fingerprint then .skip else .apply

end GpuFleet.Drift
