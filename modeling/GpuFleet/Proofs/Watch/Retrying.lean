import GpuFleet.Proofs.Retry.Record
import GpuFleet.Proofs.Watch.Acts

/-!
Attempts after failures. How long a policy waits for the next attempt is told by its own passes: by
how many of them have failed since the last one that has not. Passes for other policies may come in
between in any order.
-/
namespace GpuFleet.Watch

open Cluster (Failure Rehearsal exec)
open Policy (State)
open Retry (Record Entry)

/-- A pass that has ended: when, for which policy, and how. -/
structure Ended where
  time : Nat
  policy : String
  outcome : Except Failure State

/-- The outcome is a failure. -/
def isFailure : Except Failure State → Bool
  | .ok _ => false
  | .error _ => true

/-- The failing passes for a policy since its last successful one. -/
def failures (key : String) (passes : List Ended) : Nat :=
  ((passes.filter (·.policy == key)).reverse.takeWhile (isFailure ·.outcome)).length

theorem failures_concat (key : String) (passes : List Ended) (pass : Ended) :
    failures key (passes ++ [pass]) =
      if pass.policy = key then if isFailure pass.outcome then failures key passes + 1 else 0
      else failures key passes := by
  unfold failures
  rw [List.filter_append, List.reverse_append]
  by_cases hkey : pass.policy = key
  · rw [if_pos hkey, List.filter_cons_of_pos (by simpa using hkey), List.filter_nil,
      List.reverse_singleton, List.singleton_append, List.takeWhile_cons]
    split <;> rfl
  · rw [if_neg hkey, List.filter_cons_of_neg (by simpa using hkey), List.filter_nil]
    rfl

namespace Watcher

variable {σ : Type} {w : Watcher σ} {passes : List Ended} {key : String} {time : Nat}

/-- The watcher after passes that have ended one after another. -/
def settleAll (w : Watcher σ) (passes : List Ended) : Watcher σ :=
  passes.foldl (fun w pass => w.settle pass.time pass.policy pass.outcome) w

theorem retries_settle (outcome : Except Failure State) :
    (w.settle time key outcome).retries = w.retries.note key (isFailure outcome) := by
  rcases outcome with e | ⟨_ | _ | _⟩ <;> rfl

theorem interval_settleAll (w : Watcher σ) (passes : List Ended) :
    (w.settleAll passes).interval = w.interval := by
  unfold settleAll
  induction passes generalizing w with
  | nil => rfl
  | cons pass passes ih =>
    rw [List.foldl_cons, ih]
    rcases pass.outcome with e | ⟨_ | _ | _⟩ <;> rfl

/-- What is remembered hangs on what has been remembered before, and on nothing else. -/
theorem retries_settleAll_congr {v : Watcher σ} (h : w.retries = v.retries) :
    (w.settleAll passes).retries = (v.settleAll passes).retries := by
  unfold settleAll
  induction passes generalizing w v with
  | nil => exact h
  | cons pass passes ih =>
    rw [List.foldl_cons, List.foldl_cons]
    exact ih (by rw [retries_settle, retries_settle, h])

/-- Where every entry tells the failures before, every entry tells those after some passes. -/
theorem entry_settleAll {before : List Ended}
    (h : ∀ key, w.retries.entry key = .after (failures key before)) (key : String) :
    (w.settleAll passes).retries.entry key = .after (failures key (before ++ passes)) := by
  induction passes generalizing w before with
  | nil => rw [List.append_nil, ← h]; rfl
  | cons pass passes ih =>
    rw [settleAll, List.foldl_cons, ← settleAll, List.append_cons]
    refine ih fun k => ?_
    rw [retries_settle, failures_concat]
    by_cases hkey : pass.policy = k
    · subst hkey
      cases hfailed : isFailure pass.outcome with
      | true => simp [Record.entry_note_failed (h pass.policy)]
      | false => simp [Record.entry_note_succeeded (h pass.policy)]
    · rw [Record.entry_note_of_ne hkey, if_neg hkey, h]

/-- A policy that has had no pass has no entry. -/
theorem getElem?_retries_settleAll (h : ∀ pass ∈ passes, pass.policy ≠ key) :
    (w.settleAll passes).retries[key]? = w.retries[key]? := by
  unfold settleAll
  induction passes generalizing w with
  | nil => rfl
  | cons pass passes ih =>
    rw [List.forall_mem_cons] at h
    rw [List.foldl_cons, ih h.2, retries_settle, Record.getElem?_note_of_ne h.1]

/-- What the operator remembers after a run is what the passes made in it have come to. -/
theorem Run.exists_ended {w v : Watcher Rehearsal} {acts : List Act} (h : Run w acts v) :
    ∃ passes : List Ended, v.retries = (w.settleAll passes).retries ∧
      (passes.map fun pass => Act.pass pass.time pass.policy).Sublist acts := by
  induction h with
  | nil w => exact ⟨[], rfl, .slnil⟩
  | @cons w v u act acts hstep _ ih =>
    obtain ⟨passes, hretries, hmade⟩ := ih
    cases hstep with
    | event time e =>
      have hsame : (w.hear time e).retries = w.retries := by cases e <;> rfl
      exact ⟨passes, hretries.trans (retries_settleAll_congr hsame), hmade.cons _⟩
    | outage call times =>
      exact ⟨passes, hretries.trans (retries_settleAll_congr rfl), hmade.cons _⟩
    | @pass time key hkey =>
      cases hcopy : w.copies[key]? with
      | none =>
        rw [runPass_of_none hcopy] at hretries
        exact ⟨passes, hretries.trans (retries_settleAll_congr rfl), hmade.cons _⟩
      | some p =>
        obtain ⟨log, hpass⟩ := runPass_of_some time hcopy
        refine ⟨⟨time, key, (exec (w.operator.pass p) w.cluster).1⟩ :: passes, ?_,
          hmade.cons_cons _⟩
        rw [hretries, hpass]
        refine retries_settleAll_congr ?_
        rw [retries_settle, retries_settle]

/-- The delay in seconds and the count that a failing pass for the policy is given. -/
def attempt (w : Watcher σ) (key : String) : Nat × UInt32 :=
  ((w.retries.noteError key).delay key).1

theorem schedule_settle_error (e : Failure) :
    (w.settle time key (.error e)).schedule =
      w.schedule.insert key (time + (w.attempt key).1 + quietPeriod) :=
  Schedule.request_erase ..

theorem schedule_settle_ok (state : State) :
    (w.settle time key (.ok state)).schedule =
      if state = .ignored then w.schedule.erase key
      else w.schedule.insert key (time + w.interval + quietPeriod) := by
  cases state
  case ignored => rfl
  all_goals exact Schedule.request_erase ..

/-- What a pass for the policy at a time meets when some passes have ended before it. -/
structure FollowsFailures (w : Watcher σ) (passes : List Ended) (key : String) (time : Nat) :
    Prop where
  /-- If it fails, the delay is told by the failures since the last success, this one included. -/
  delay : ((w.settleAll passes).attempt key).1 = min (5 * Nat.fib (failures key passes + 1)) 300
  /-- They are counted, as far as 32 bits reach. -/
  count : failures key passes + 1 < UInt32.size →
    ((w.settleAll passes).attempt key).2.toNat = failures key passes + 1
  /-- The next pass is due after the delay and the quiet period. -/
  failed : ∀ e : Failure, ((w.settleAll passes).settle time key (.error e)).schedule =
    (w.settleAll passes).schedule.insert key
      (time + min (5 * Nat.fib (failures key passes + 1)) 300 + quietPeriod)
  /-- If it does not fail, a policy that is ignored is due no more, and any other after the
  interval. -/
  succeeded : ∀ state, ((w.settleAll passes).settle time key (.ok state)).schedule =
    if state = .ignored then (w.settleAll passes).schedule.erase key
    else (w.settleAll passes).schedule.insert key (time + w.interval + quietPeriod)
  /-- Passes for other policies have no part in that. -/
  alone : ∀ others : List Ended,
    others.filter (·.policy == key) = passes.filter (·.policy == key) →
      (w.settleAll others).retries.entry key = (w.settleAll passes).retries.entry key
  /-- For a policy that has had no pass there is nothing to start anew. -/
  unseen : (∀ pass ∈ passes, pass.policy ≠ key) → ∀ state,
    ((w.settleAll passes).settle time key (.ok state)).retries = (w.settleAll passes).retries

/-- After failing passes in any number, with passes for other policies in between, the delay before
the next attempt follows the Fibonacci sequence from five seconds to five minutes, and the failures
are counted; a pass that does not fail starts both anew. -/
theorem delays_follow_failures (w : Watcher σ) (hfresh : w.retries = ∅) (passes : List Ended)
    (key : String) (time : Nat) : w.FollowsFailures passes key time := by
  have hstart : ∀ key, w.retries.entry key = .after (failures key []) := by
    intro key
    rw [hfresh]
    exact Record.entry_empty key
  have hentry : ∀ passes key,
      (w.settleAll passes).retries.entry key = .after (failures key passes) :=
    fun passes key => entry_settleAll hstart key
  have hattempt : (w.settleAll passes).attempt key =
      (min (5 * Nat.fib (failures key passes + 1)) 300, .ofNat (failures key passes + 1)) := by
    rw [attempt, Record.delay_noteError (hentry passes key)]
  refine ⟨?delay, ?count, fun e => ?failed, fun state => ?succeeded, fun others hothers => ?alone,
    fun hnone state => ?unseen⟩
  case delay => rw [hattempt]
  case count =>
    intro hlt
    rw [hattempt]
    exact UInt32.toNat_ofNat_of_lt hlt
  case failed => rw [schedule_settle_error, hattempt]
  case succeeded => rw [schedule_settle_ok, interval_settleAll]
  case alone => rw [hentry, hentry, failures, failures, hothers]
  case unseen =>
    rw [retries_settle, isFailure, Record.note, if_neg Bool.false_ne_true, Record.forgive_of_none]
    rw [getElem?_retries_settleAll hnone, hfresh]
    exact Std.ExtTreeMap.getElem?_empty

/-- A pass that fails because the nodes cannot be listed. -/
def unanswered (time : Nat) (key : String) : Ended :=
  ⟨time, key, .error (.outage .listNodes "no answer")⟩

/-- Passes for two policies, one of which succeeds in between. -/
def mixedPasses : List Ended := [unanswered 10 "a", unanswered 20 "b", ⟨25, "a", .ok .ready⟩]

/-- An operator that has made no pass so far. -/
def fresh : Watcher Rehearsal := start Operator.sample 300 {} ∅ []

/-- A second failure at second 30 makes the policy due at second 40. It fails then for the third
time and is due again ten seconds and the quiet period later. -/
theorem delays_follow_failures_mixed : fresh.retries = ∅ ∧ 3 < UInt32.size ∧
    (fresh.settleAll (mixedPasses ++ [unanswered 30 "b"])).schedule["b"]? = some 40 ∧
    (fresh.settleAll (mixedPasses ++ [unanswered 30 "b"])).attempt "b" = (10, 3) ∧
    (fresh.settleAll (mixedPasses ++ [unanswered 30 "b", unanswered 40 "b"])).schedule["b"]? =
      some 55 := by
  have hsecond := delays_follow_failures fresh rfl mixedPasses "b" 30
  have hthird := delays_follow_failures fresh rfl (mixedPasses ++ [unanswered 30 "b"]) "b" 40
  have hbefore : failures "b" mixedPasses = 1 := by decide
  have hbefore' : failures "b" (mixedPasses ++ [unanswered 30 "b"]) = 2 := by decide
  have hcount := hthird.count
  have hdelay := hthird.delay
  rw [hbefore'] at hcount hdelay
  refine ⟨rfl, by decide, ?_, Prod.ext hdelay (UInt32.toNat_inj.mp (hcount (by decide))), ?_⟩
  · have hdue := hsecond.failed (.outage .listNodes "no answer")
    rw [hbefore] at hdue
    exact (congrArg (·["b"]?) hdue).trans Std.ExtTreeMap.getElem?_insert_self
  · have hdue := hthird.failed (.outage .listNodes "no answer")
    rw [hbefore'] at hdue
    exact (congrArg (·["b"]?) hdue).trans Std.ExtTreeMap.getElem?_insert_self

end Watcher

end GpuFleet.Watch
