import GpuFleet.Proofs.Number.Numeral
import GpuFleet.Proofs.Text.Trim
import GpuFleet.Settings

/-!
The settings that environments have. Which intervals are accepted is said by a grammar: a text that
is a numeral of a number from one to what 64 bits hold, but for white space at its ends.
-/
namespace GpuFleet

namespace Settings

/-- There is nothing but white space in the text. -/
def Blank (text : String) : Prop := ∀ c ∈ text.toList, Text.isBlank c = true

/-- A numeral of the number of seconds from one pass to the next. -/
def IsInterval (text : List Char) (seconds : Nat) : Prop :=
  Number.IsNumeral text seconds ∧ 1 ≤ seconds ∧ seconds < Number.capacity 64

/-- What a variable comes to: a default where it is unset or blank, and its text as it is else. -/
inductive Gives (default : String) : Option String → String → Prop
  | unset : Gives default none default
  | blank (text : String) : Blank text → Gives default (some text) default
  | given (text : String) : ¬ Blank text → Gives default (some text) text

/-- The number of seconds that a variable asks for. -/
inductive Asks : Option String → Nat → Prop
  | unset : Asks none 300
  | blank (text : String) : Blank text → Asks (some text) 300
  | given (text : String) (core : List Char) (seconds : Nat) : ¬ Blank text →
      Text.IsCore text.toList core → IsInterval core seconds → Asks (some text) seconds

/-- What is wrong with the text of a variable that asks for no number of seconds. -/
inductive AsksAmiss : Option String → Misconfiguration → Prop
  | given (text : String) (core : List Char) : ¬ Blank text → Text.IsCore text.toList core →
      (∀ seconds, ¬ IsInterval core seconds) → AsksAmiss (some text) (.badInterval text)

variable {lookup : String → Option String} {v : Option String} {default text : String} {n : Nat}

theorem isBlankText_iff : Text.isBlankText text = true ↔ Blank text := by
  rw [Text.isBlankText, List.all_eq_true, Blank]

theorem interval?_eq_some_iff {cs : List Char} : interval? cs = some n ↔ IsInterval cs n := by
  rw [interval?, Option.filter_eq_some_iff, Number.unsigned?_eq_some_iff, decide_eq_true_eq,
    IsInterval, and_assoc, and_comm (a := n < _)]
  exact Iff.rfl

/-- The text of a variable, unless it is blank. -/
def written? (v : Option String) : Option String := v.filter fun text => !Text.isBlankText text

theorem written?_eq_some_iff : written? v = some text ↔ v = some text ∧ ¬ Blank text := by
  simp [written?, Option.filter_eq_some_iff, ← isBlankText_iff]

theorem written?_eq_none_iff : written? v = none ↔ ∀ text, v = some text → Blank text := by
  simp [written?, Option.filter_eq_none_iff, ← isBlankText_iff]

theorem gives_iff : Gives default v text ↔ (written? v).getD default = text := by
  constructor
  · intro h
    cases h with
    | unset => rfl
    | blank blank hblank => simp [written?, Option.filter, isBlankText_iff.mpr hblank]
    | given _ hgiven => rw [written?_eq_some_iff.mpr ⟨rfl, hgiven⟩, Option.getD_some]
  · rintro rfl
    cases v with
    | none => exact .unset
    | some text =>
      by_cases hblank : Blank text
      · rw [written?_eq_none_iff.mpr (by simpa using hblank)]
        exact .blank text hblank
      · rw [written?_eq_some_iff.mpr ⟨rfl, hblank⟩]
        exact .given text hblank

theorem asks_iff_of_none (h : written? v = none) : Asks v n ↔ n = 300 := by
  rw [written?_eq_none_iff] at h
  constructor
  · intro hasks
    cases hasks with
    | unset => rfl
    | blank => rfl
    | given text _ _ hgiven => exact absurd (h text rfl) hgiven
  · rintro rfl
    cases v with
    | none => exact .unset
    | some text => exact .blank text (h text rfl)

theorem asks_iff_of_some (h : written? v = some text) :
    Asks v n ↔ interval? (Text.trim text.toList) = some n := by
  obtain ⟨rfl, hgiven⟩ := written?_eq_some_iff.mp h
  rw [interval?_eq_some_iff]
  constructor
  · intro hasks
    cases hasks with
    | blank _ hblank => exact absurd hblank hgiven
    | given _ core _ _ hcore hinterval => rwa [← hcore.eq_trim]
  · exact .given text _ n hgiven (Text.isCore_trim _)

theorem asksAmiss_iff {e : Misconfiguration} :
    AsksAmiss v e ↔ ∃ text, written? v = some text ∧ interval? (Text.trim text.toList) = none ∧
      e = .badInterval text := by
  simp only [written?_eq_some_iff, Option.eq_none_iff_forall_ne_some, ne_eq, interval?_eq_some_iff]
  constructor
  · rintro ⟨text, core, hgiven, hcore, hnone⟩
    exact ⟨text, ⟨rfl, hgiven⟩, by rwa [← hcore.eq_trim], rfl⟩
  · rintro ⟨text, ⟨rfl, hgiven⟩, hnone, rfl⟩
    exact .given text _ hgiven (Text.isCore_trim _) hnone

/-- The settings of an environment whose interval is known. -/
def withInterval (lookup : String → Option String) (interval : Nat) : Settings where
  ns := (written? (lookup "OPERATOR_NAMESPACE")).getD "gpu-operator"
  manifestsDir := (written? (lookup "MANIFESTS_DIR")).getD "/opt/gpu-operator/manifests"
  interval := interval

theorem ofEnvironment_of_none (h : written? (lookup "RECONCILE_INTERVAL_SECS") = none) :
    ofEnvironment lookup = .ok (withInterval lookup 300) := by
  rw [written?] at h
  simp only [ofEnvironment, h]
  rfl

theorem ofEnvironment_of_some (h : written? (lookup "RECONCILE_INTERVAL_SECS") = some text) :
    ofEnvironment lookup = (interval? (Text.trim text.toList)).elim (.error (.badInterval text))
      fun n => .ok (withInterval lookup n) := by
  rw [written?] at h
  simp only [ofEnvironment, h]
  cases interval? (Text.trim text.toList) <;> rfl

theorem eq_withInterval_iff {s : Settings} :
    withInterval lookup n = s ↔ Gives "gpu-operator" (lookup "OPERATOR_NAMESPACE") s.ns ∧
      Gives "/opt/gpu-operator/manifests" (lookup "MANIFESTS_DIR") s.manifestsDir ∧
      n = s.interval := by
  cases s
  rw [gives_iff, gives_iff, withInterval, Settings.mk.injEq]

/-- An environment has settings exactly if its interval, where that is neither unset nor blank, is a
numeral of a positive number of 64 bits but for white space at its ends. Then these are its
settings, and else the interval is to blame. Variables other than the three have no part in it. -/
theorem settings_follow_grammar (lookup : String → Option String) :
    (∀ e, ofEnvironment lookup = .error e ↔ AsksAmiss (lookup "RECONCILE_INTERVAL_SECS") e) ∧
      (∀ s, ofEnvironment lookup = .ok s ↔
        Gives "gpu-operator" (lookup "OPERATOR_NAMESPACE") s.ns ∧
          Gives "/opt/gpu-operator/manifests" (lookup "MANIFESTS_DIR") s.manifestsDir ∧
          Asks (lookup "RECONCILE_INTERVAL_SECS") s.interval) ∧
      ∀ other : String → Option String,
        (∀ key ∈ ["OPERATOR_NAMESPACE", "MANIFESTS_DIR", "RECONCILE_INTERVAL_SECS"],
          other key = lookup key) → ofEnvironment other = ofEnvironment lookup := by
  refine ⟨fun e => ?_, fun s => ?_, fun other hother => ?_⟩
  · rw [asksAmiss_iff]
    cases hwritten : written? (lookup "RECONCILE_INTERVAL_SECS") with
    | none => simp [ofEnvironment_of_none hwritten]
    | some text =>
      rw [ofEnvironment_of_some hwritten]
      cases hread : interval? (Text.trim text.toList) with
      | none => simp [hread, eq_comm]
      | some n => simp [hread]
  · cases hwritten : written? (lookup "RECONCILE_INTERVAL_SECS") with
    | none =>
      rw [ofEnvironment_of_none hwritten, asks_iff_of_none hwritten, Except.ok.injEq,
        eq_withInterval_iff, eq_comm (a := 300)]
    | some text =>
      rw [ofEnvironment_of_some hwritten, asks_iff_of_some hwritten]
      cases interval? (Text.trim text.toList) with
      | none => simp
      | some n => rw [Option.elim_some, Except.ok.injEq, eq_withInterval_iff, Option.some.injEq]
  · rw [List.forall_mem_cons, List.forall_mem_cons, List.forall_mem_singleton] at hother
    simp only [ofEnvironment, hother]

/-- An environment that sets the interval, with white space around it. -/
def spacedOut (key : String) : Option String :=
  if key = "RECONCILE_INTERVAL_SECS" then some "\u3000+0060\n" else none

/-- The same with a variable that is none of the three. -/
def spacedOutAtHome (key : String) : Option String :=
  if key = "HOME" then some "/root" else spacedOut key

theorem asks_spacedOut : Asks (spacedOut "RECONCILE_INTERVAL_SECS") 60 := by
  have hcore : Text.IsCore "\u3000+0060\n".toList ['+', '0', '0', '6', '0'] := by
    rw [Text.isCore_iff]
    decide
  have hall : ['0', '0', '6', '0'].all Char.isDigit = true := by decide
  have hdigits : Number.IsDigits ['0', '0', '6', '0'] 60 :=
    ⟨by simp, fun c hc => Number.isDigit_iff.mp (List.all_eq_true.mp hall c hc), by decide⟩
  have hgiven : ¬ Blank "\u3000+0060\n" := by
    rw [← isBlankText_iff]
    decide
  exact .given _ _ 60 hgiven hcore ⟨.inr ⟨_, rfl, hdigits⟩, by decide, by decide⟩

theorem settings_follow_grammar_spacedOut :
    (∀ key ∈ ["OPERATOR_NAMESPACE", "MANIFESTS_DIR", "RECONCILE_INTERVAL_SECS"],
        spacedOutAtHome key = spacedOut key) ∧
      ofEnvironment spacedOutAtHome = .ok { interval := 60 } := by
  have hsame : ∀ key ∈ ["OPERATOR_NAMESPACE", "MANIFESTS_DIR", "RECONCILE_INTERVAL_SECS"],
      spacedOutAtHome key = spacedOut key := by decide
  obtain ⟨-, hok, hother⟩ := settings_follow_grammar spacedOut
  exact ⟨hsame, (hother _ hsame).trans ((hok _).mpr ⟨.unset, .unset, asks_spacedOut⟩)⟩

end Settings

end GpuFleet
