import GpuFleet.Json.Basic

/-!
JSON merge patches (RFC 7386): an object changes the members it names, a null removes a member, and
any other value takes the place of its target.
-/
namespace GpuFleet.Json

mutual

/-- The target as the patch leaves it. -/
def mergePatch (target : Json) : (patch : Json) → Json
  | .object changes => .object (mergeMembers (target.object?.getD []) changes)
  | .null => .null
  | .bool b => .bool b
  | .number n => .number n
  | .string s => .string s
  | .array items => .array items

/-- The changes made one after another. -/
def mergeMembers (members : Members) : (changes : List (String × Json)) → Members
  | [] => members
  | (k, v) :: changes =>
    mergeMembers
      (if v = .null then members.drop k
       else members.put k (mergePatch ((members.lookup k).getD .null) v))
      changes

end

end GpuFleet.Json
