import GpuFleet.Number.Binary64

/-!
JSON values. An object is the list of its members in the order of writing; where a name occurs
twice, the first member counts, unless a typed reader says otherwise. Integers and fractions are
kept apart, because texts and typed readers tell `1` from `1.0`.
-/
namespace GpuFleet

/-- A JSON number: an integer, or a finite binary floating-point number. -/
inductive Number where
  | int (value : Int)
  | real (value : Binary64)
deriving DecidableEq, Repr, Inhabited

inductive Json where
  | null
  | bool (value : Bool)
  | number (value : Number)
  | string (value : String)
  | array (items : List Json)
  | object (members : List (String × Json))
deriving Repr, Inhabited

/-- The members of an object. -/
abbrev Members := List (String × Json)

namespace Json

/-- An integer. -/
abbrev int (n : Int) : Json := .number (.int n)

mutual

/-- Equality of values is decidable; member order counts. -/
def decEq : (v w : Json) → Decidable (v = w)
  | .null, .null => isTrue rfl
  | .bool a, .bool b => decidable_of_iff (a = b) (by simp)
  | .number a, .number b => decidable_of_iff (a = b) (by simp)
  | .string a, .string b => decidable_of_iff (a = b) (by simp)
  | .array a, .array b =>
    have := decEqItems a b
    decidable_of_iff (a = b) (by simp)
  | .object a, .object b =>
    have := decEqMembers a b
    decidable_of_iff (a = b) (by simp)
  | .null, .bool _ | .null, .number _ | .null, .string _ | .null, .array _ | .null, .object _
  | .bool _, .null | .bool _, .number _ | .bool _, .string _ | .bool _, .array _
  | .bool _, .object _
  | .number _, .null | .number _, .bool _ | .number _, .string _ | .number _, .array _
  | .number _, .object _
  | .string _, .null | .string _, .bool _ | .string _, .number _ | .string _, .array _
  | .string _, .object _
  | .array _, .null | .array _, .bool _ | .array _, .number _ | .array _, .string _
  | .array _, .object _
  | .object _, .null | .object _, .bool _ | .object _, .number _ | .object _, .string _
  | .object _, .array _ => isFalse nofun

private def decEqItems : (v w : List Json) → Decidable (v = w)
  | [], [] => isTrue rfl
  | a :: v, b :: w =>
    have := decEq a b
    have := decEqItems v w
    decidable_of_iff (a = b ∧ v = w) (by simp)
  | [], _ :: _ | _ :: _, [] => isFalse nofun

private def decEqMembers : (v w : List (String × Json)) → Decidable (v = w)
  | [], [] => isTrue rfl
  | (k, a) :: v, (l, b) :: w =>
    have := decEq a b
    have := decEqMembers v w
    decidable_of_iff (k = l ∧ a = b ∧ v = w) (by simp [and_assoc])
  | [], _ :: _ | _ :: _, [] => isFalse nofun

end

instance : DecidableEq Json := decEq

/-- The members, if the value is an object. -/
def object? : Json → Option Members
  | .object members => some members
  | _ => none

/-- The members of an object, or of an array that gives the values of the members with these names
in their order; the last ones may be left out. -/
def placed? (names : List String) : Json → Option Members
  | .object members => some members
  | .array items => if items.length ≤ names.length then some (names.zip items) else none
  | _ => none

/-- The items, if the value is an array. -/
def array? : Json → Option (List Json)
  | .array items => some items
  | _ => none

/-- The characters, if the value is a string. -/
def string? : Json → Option String
  | .string s => some s
  | _ => none

/-- The truth value, if the value is one. -/
def bool? : Json → Option Bool
  | .bool b => some b
  | _ => none

/-- The integer, if the value is written as one. -/
def int? : Json → Option Int
  | .number (.int n) => some n
  | _ => none

/-- The integer, if it is one and not negative. -/
def nat? (v : Json) : Option Nat :=
  match v.int? with
  | some (.ofNat n) => some n
  | _ => none

/-- Each item read by `read`, if the value is an array and all items can be read. -/
def list? (read : Json → Option α) (v : Json) : Option (List α) := do
  (← v.array?).mapM read

/-- A value that may be null. -/
def orNull? (read : Json → Option α) : Json → Option (Option α)
  | .null => some none
  | v => (read v).map some

/-- A constant of an enumeration: its name, or an object whose one member has that name and is
null. -/
def choice? (ofName? : String → Option α) : Json → Option α
  | .string s | .object [(s, .null)] => ofName? s
  | _ => none

/-- The member `key`, or null where there is none. -/
def get (v : Json) (key : String) : Json :=
  match v with
  | .object members => (members.lookup key).getD .null
  | _ => .null

end Json

namespace Members

/-- The members with `key` set to `v`, in its place or else at the end. -/
def put (key : String) (v : Json) : Members → Members
  | [] => [(key, v)]
  | (k, w) :: rest => if k = key then (key, v) :: rest else (k, w) :: put key v rest

/-- The members other than `key`. -/
def drop (key : String) (members : Members) : Members := members.filter (·.1 ≠ key)

/-- A member list of one entry, or of none where the value is unset. -/
def opt (key : String) : Option Json → Members
  | none => []
  | some v => [(key, v)]

theorem lookup_put (key l : String) (v : Json) (members : Members) :
    (members.put key v).lookup l = if l = key then some v else members.lookup l := by
  induction members with
  | nil => by_cases h : l = key <;> simp [put, List.lookup_cons, h, beq_false_of_ne]
  | cons m rest ih =>
    obtain ⟨k, w⟩ := m
    by_cases hk : k = key
    · subst hk
      by_cases h : l = k <;> simp [put, List.lookup_cons, h, beq_false_of_ne]
    · by_cases h : l = k
      · subst h
        simp [put, hk]
      · simp [put, hk, List.lookup_cons, beq_false_of_ne h, ih]

end Members

end GpuFleet
