import GpuFleet.Policy.Wire

/-!
Which of several cluster policies is in charge: the oldest one. Policies of one age are told apart
by their names, so that the choice does not hang on the order in which they are listed.
-/
namespace GpuFleet.Policy

namespace ClusterPolicy

/-- By creation, and then by name; what is unset comes first. -/
def ageOrder (a b : ClusterPolicy) : Ordering :=
  (compare a.metadata.creationTimestamp b.metadata.creationTimestamp).then
    (compare a.metadata.name b.metadata.name)

end ClusterPolicy

/-- The item with the oldest policy, the first one of several that are alike in age and name. -/
def oldestBy? (policy : α → ClusterPolicy) : List α → Option α
  | [] => none
  | x :: xs =>
    match oldestBy? policy xs with
    | none => some x
    | some y => if ((policy y).ageOrder (policy x)).isLT then some y else some x

/-- The policy that is in charge. -/
def oldest? (policies : List ClusterPolicy) : Option ClusterPolicy := oldestBy? id policies

end GpuFleet.Policy
