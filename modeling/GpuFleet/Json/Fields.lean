import GpuFleet.Json.Basic

/-!
Reading the members of an object one by one. There are two conventions. At a *lenient* member null
says the same as absence, and where the member occurs several times, every value has to be readable
and the last one counts. A *strict* member occurs once at most.
-/
namespace GpuFleet.Members

/-- The values of all members with the name, in the order of writing. -/
def values (key : String) (members : Members) : List Json :=
  (members.filter (·.1 = key)).map (·.2)

/-- A lenient member, which is unset where it is absent or null. -/
def lenient? (read : Json → Option α) (key : String) (members : Members) : Option (Option α) :=
  (members.values key).foldlM (fun _ v => Json.orNull? read v) none

/-- A lenient member that takes `default` where it is unset. -/
def lenientD (read : Json → Option α) (default : α) (key : String) (members : Members) :
    Option α :=
  (members.lenient? read key).map (·.getD default)

/-- A strict member that takes `default` where it is absent. -/
def strictD (read : Json → Option α) (default : α) (key : String) (members : Members) :
    Option α :=
  match members.values key with
  | [] => some default
  | [v] => read v
  | _ => none

/-- A strict member that may be absent or null. -/
def strict? (read : Json → Option α) (key : String) (members : Members) : Option (Option α) :=
  members.strictD (Json.orNull? read) none key

/-- A strict member that must be there. -/
def need? (read : Json → Option α) (key : String) (members : Members) : Option α :=
  match members.values key with
  | [v] => read v
  | _ => none

/-- Every member with the name is the string `value`. -/
def matchesText (key value : String) (members : Members) : Bool :=
  (members.values key).all (· == .string value)

/-- A set value under its name; nothing for an unset one. -/
def put? (key : String) (write : α → Json) (v : Option α) : Members :=
  opt key (v.map write)

end GpuFleet.Members
