import GpuFleet.Proofs.Operator.Report
import GpuFleet.Proofs.Policy.RoundTrip

/-!
The status of a policy over a run of announcements. What is announced is merged into the stored
status as a patch that names every field, so that nothing of the old status is left but the time of
the last transition, where the state has not changed.
-/
namespace GpuFleet

namespace Policy

namespace Status

variable {current : Option Status} {next : Status}

/-! ## One patch -/

/-- The status of a policy as it is stored, null where there is none. -/
def stored (current : Option Status) : Json := current.elim .null toJson

/-- What the patch for a status changes of the stored one. -/
def changes (next : Status) : Members :=
  [("state", .string next.state.name), ("namespace", textOrNull next.ns),
    ("error", textOrNull next.error),
    ("lastTransition", textOrNull (next.lastTransition.map Instant.text))]

theorem nodup_changes (next : Status) : (next.changes.map Prod.fst).Nodup := by
  simp [changes]

theorem changed_textOrNull (old : Option Json) (text : Option String) :
    Json.changed old (textOrNull text) = text.map .string := by
  cases text <;> simp [Json.changed, textOrNull, Json.mergePatch]

/-- No member of a stored status occurs twice. -/
theorem nodup_stored (current : Option Status) :
    (((stored current).object?.getD []).map Prod.fst).Nodup := by
  cases current with
  | none => exact List.nodup_nil
  | some s =>
    obtain ⟨state, ns, error, lastTransition⟩ := s
    cases ns <;> cases error <;> cases lastTransition <;>
      simp [stored, toJson, Json.object?, Members.put?, Members.opt]

/-- A member that the patch names is left with the value that it has there, or none for null. -/
theorem values_merged (current : Option Status) (text : Option String) {key : String}
    (h : next.changes.lookup key = some (textOrNull text)) :
    Members.values key (Json.mergeMembers ((stored current).object?.getD []) next.changes) =
      (text.map Json.string).toList := by
  rw [Json.values_mergeMembers next.nodup_changes
    (Members.length_values_le_one (nodup_stored current) key), h]
  simp only [changed_textOrNull]

/-- The patch for a status, merged into any stored one, leaves that status. -/
theorem ofJson?_mergePatch (current : Option Status)
    (hread : ∀ t, next.lastTransition = some t → t.IsLegible) :
    ofJson? (Json.mergePatch (stored current) (next.patch.get "status")) = some next := by
  have hmerged : Json.mergePatch (stored current) (next.patch.get "status") =
      .object (Json.mergeMembers ((stored current).object?.getD []) next.changes) := rfl
  rw [hmerged]
  refine ofJson?_of_values hread (values_merged current (some next.state.name) rfl)
    (values_merged current next.ns rfl) (values_merged current next.error rfl) ?_
  rw [values_merged current (next.lastTransition.map Instant.text) rfl, Option.map_map]

end Status

/-! ## Announcements -/

/-- What a policy is told, and what the clock says then. -/
structure Announcement where
  state : State
  error : Option String
  time : Instant

namespace Announcement

variable {ns : String} {a : Announcement} {calls : List Announcement}

/-- The patch that is issued, if one is due. -/
def patch? (ns : String) (current : Option Status) (a : Announcement) : Option Json :=
  (Status.report? current a.state ns a.error).map fun r => (r.written a.time).patch

/-- The stored status after an announcement, if it can be read. -/
def announce? (ns : String) (current : Option Status) (a : Announcement) : Option Status :=
  match patch? ns current a with
  | none => current
  | some patch => Status.ofJson? (Json.mergePatch (Status.stored current) (patch.get "status"))

/-- The stored status after announcements, each made for the status that the one before has left. -/
def announceAll? (ns : String) (current : Option Status) (calls : List Announcement) :
    Option (Option Status) :=
  calls.foldlM (fun current a => (announce? ns current a).map some) current

/-- The times at which announcements change the state. -/
def transitions : Option State → List Announcement → List Instant
  | _, [] => []
  | previous, a :: rest =>
    (if previous = some a.state then [] else [a.time]) ++ transitions (some a.state) rest

/-- What an announcement makes of the stored status. -/
def status (ns : String) (current : Option Status) (a : Announcement) : Status where
  state := a.state
  ns := some ns
  error := a.error
  lastTransition :=
    if current.map (·.state) = some a.state then current.bind (·.lastTransition) else some a.time

/-- A patch is issued exactly if there is no status yet, or one that says something else. -/
theorem isSome_patch?_iff {current : Option Status} :
    (patch? ns current a).isSome ↔ current = none ∨ ∃ old, current = some old ∧
      (old.state ≠ a.state ∨ old.ns ≠ some ns ∨ old.error ≠ a.error) := by
  rw [patch?, Option.isSome_map, ← Option.ne_none_iff_isSome, ne_eq, Status.report?_eq_none_iff,
    Status.isOutdated_eq_false_iff]
  cases current with
  | none => simp
  | some old =>
    simp only [Option.some.injEq, exists_eq_left', reduceCtorEq, false_or, ne_eq, ← not_and_or]

/-- A report that is due says what the announcement makes of the stored status. -/
theorem written_of_report? {current : Option Status} {r : Report}
    (h : Status.report? current a.state ns a.error = some r) :
    r.written a.time = status ns current a := by
  unfold Status.report? at h
  split at h
  · cases h
    cases current with
    | none => rfl
    | some old => by_cases hstate : old.state = a.state <;> simp [Report.written, status, hstate]
  · cases h

/-- Where none is due, the stored status says so already. -/
theorem eq_status_of_report? {current : Option Status}
    (h : Status.report? current a.state ns a.error = none) :
    current = some (status ns current a) := by
  obtain ⟨⟨state, ns', error, lastTransition⟩, rfl, hstate, hns, herror⟩ :=
    Status.isOutdated_eq_false_iff.mp (Status.report?_eq_none_iff.mp h)
  simp only at hstate hns herror
  subst hstate hns herror
  simp [status]

/-- An announcement makes of the stored status what it says; the time of the last transition moves
exactly if the state does. -/
theorem announce?_eq {current : Option Status}
    (hread : ∀ t, (status ns current a).lastTransition = some t → t.IsLegible) :
    announce? ns current a = some (status ns current a) := by
  unfold announce? patch?
  cases hreport : Status.report? current a.state ns a.error with
  | none => exact eq_status_of_report? hreport
  | some r =>
    simp only [Option.map_some, written_of_report? hreport]
    exact Status.ofJson?_mergePatch current hread

/-! ## Runs -/

/-- The stored status after announcements. -/
def statusAfter (ns : String) (current : Option Status) (calls : List Announcement) :
    Option Status :=
  calls.foldl (fun current a => some (status ns current a)) current

theorem lastTransition_status (ns : String) (current : Option Status) (a : Announcement) :
    (status ns current a).lastTransition =
      (if current.map (·.state) = some a.state then [] else [a.time]).getLast?.or
        (current.bind (·.lastTransition)) := by
  unfold status
  split <;> simp

/-- The time of the last transition is that of the latest announcement that has changed the state,
or else that of the initial status. -/
theorem lastTransition_statusAfter (ns : String) (initial : Option Status)
    (calls : List Announcement) (a : Announcement) :
    (status ns (statusAfter ns initial calls) a).lastTransition =
      (transitions (initial.map (·.state)) (calls ++ [a])).getLast?.or
        (initial.bind (·.lastTransition)) := by
  induction calls generalizing initial with
  | nil =>
    rw [statusAfter, List.foldl_nil, lastTransition_status, List.nil_append, transitions,
      transitions, List.append_nil]
  | cons b calls ih =>
    rw [statusAfter, List.foldl_cons, ← statusAfter, ih, List.cons_append, transitions,
      List.getLast?_append, Option.or_assoc, ← lastTransition_status ns initial b]
    rfl

/-- Times stay legible. -/
private theorem legible_status (ns : String) {current : Option Status}
    (hcurrent : ∀ t, current.bind (·.lastTransition) = some t → t.IsLegible)
    (ha : a.time.IsLegible) :
    ∀ t, (status ns current a).lastTransition = some t → t.IsLegible := by
  intro t ht
  unfold status at ht
  simp only at ht
  split at ht
  · exact hcurrent t ht
  · cases ht
    exact ha

private theorem legible_statusAfter (ns : String) {initial : Option Status}
    (hinitial : ∀ t, initial.bind (·.lastTransition) = some t → t.IsLegible)
    (hclock : ∀ b ∈ calls, b.time.IsLegible) :
    ∀ t, (statusAfter ns initial calls).bind (·.lastTransition) = some t →
      t.IsLegible := by
  induction calls generalizing initial with
  | nil => exact hinitial
  | cons b calls ih =>
    obtain ⟨hb, hcalls⟩ := List.forall_mem_cons.mp hclock
    have hstep : ∀ t, (some (status ns initial b)).bind (·.lastTransition) = some t →
        t.IsLegible := legible_status ns hinitial hb
    exact ih hstep hcalls

theorem announceAll?_eq {initial : Option Status}
    (hinitial : ∀ t, initial.bind (·.lastTransition) = some t → t.IsLegible)
    (hclock : ∀ b ∈ calls, b.time.IsLegible) :
    announceAll? ns initial calls = some (statusAfter ns initial calls) := by
  induction calls generalizing initial with
  | nil => rfl
  | cons b calls ih =>
    obtain ⟨hb, hcalls⟩ := List.forall_mem_cons.mp hclock
    have hstep : ∀ t, (some (status ns initial b)).bind (·.lastTransition) = some t →
        t.IsLegible := legible_status ns hinitial hb
    rw [announceAll?, List.foldlM_cons, announce?_eq hstep, Option.map_some]
    exact ih hstep hcalls

/-- Announcements one after another, each for the policy as it is then stored, can always be read
back. After each of them the stored state, namespace and error are those that have been announced;
an error that is announced no more is gone. A patch is issued exactly if there was no status, or one
that said something else. The time of the last transition is that of the latest announcement that
has changed the state or given the policy its status, or else the initial one. -/
theorem status_follows_announcements (ns : String) (initial : Option Status)
    (calls : List Announcement) (a : Announcement)
    (hinitial : ∀ t, initial.bind (·.lastTransition) = some t → t.IsLegible)
    (hclock : ∀ b ∈ calls ++ [a], b.time.IsLegible) :
    ∃ before after, announceAll? ns initial calls = some before ∧
      announce? ns before a = some after ∧
      after.state = a.state ∧ after.ns = some ns ∧ after.error = a.error ∧
      ((patch? ns before a).isSome ↔ before = none ∨ ∃ old, before = some old ∧
        (old.state ≠ a.state ∨ old.ns ≠ some ns ∨ old.error ≠ a.error)) ∧
      after.lastTransition = (transitions (initial.map (·.state)) (calls ++ [a])).getLast?.or
        (initial.bind (·.lastTransition)) := by
  have hcalls : ∀ b ∈ calls, b.time.IsLegible :=
    fun b hb => hclock b (List.mem_append_left _ hb)
  have hread := legible_statusAfter ns hinitial hcalls
  have ha := hclock a (List.mem_append_right _ List.mem_cons_self)
  exact ⟨_, _, announceAll?_eq hinitial hcalls, announce?_eq (legible_status ns hread ha), rfl, rfl,
    rfl, isSome_patch?_iff, lastTransition_statusAfter ns initial calls a⟩

/-- A policy that has failed, and does not know since when. -/
def failed : Status where
  state := .notReady
  ns := some "gpu-operator"
  error := some "boom"

/-- It fails once more, and then it does not. -/
theorem status_follows_announcements_recovery :
    ∃ before after, announceAll? "gpu-operator" (some failed)
        [⟨.notReady, some "bang", ⟨978307201, 0⟩⟩] = some before ∧
      announce? "gpu-operator" before ⟨.ready, none, ⟨978307202, 500⟩⟩ = some after ∧
      after.state = .ready ∧ after.error = none ∧
      after.lastTransition = some ⟨978307202, 500⟩ := by
  obtain ⟨before, after, hbefore, hafter, hstate, -, herror, -, htime⟩ :=
    status_follows_announcements "gpu-operator" (some failed)
      [⟨.notReady, some "bang", ⟨978307201, 0⟩⟩] ⟨.ready, none, ⟨978307202, 500⟩⟩ nofun
      (by decide +kernel)
  exact ⟨before, after, hbefore, hafter, hstate, herror, htime.trans (by decide)⟩

end Announcement

end Policy

namespace Operator

open Cluster (Store)
open Policy (Announcement ClusterPolicy State)

/-- The cluster in memory stores the status of a report as it is. That is what the patch leaves. -/
theorem status_told_eq (op : Operator) (p : ClusterPolicy) (state : State) (error : Option String)
    (s : Store) : (op.told p state error s).status =
      some (Announcement.status op.ns p.status
        ⟨state, error, ({ s with stamps := s.stamps + 1 } : Store).time⟩) := by
  generalize hnext : ({ s with stamps := s.stamps + 1 } : Store).time = time
  unfold told
  cases hreport : Policy.Status.report? p.status state op.ns error with
  | none => exact Announcement.eq_status_of_report? (a := ⟨state, error, time⟩) hreport
  | some r =>
    have hwritten : r.written (s.tick r).time = r.written time := by
      unfold Policy.Report.written Store.tick
      cases r.transition with
      | now => rw [← hnext]
      | kept t => rfl
    simp only [hwritten]
    exact congrArg some (Announcement.written_of_report? (a := ⟨state, error, time⟩) hreport)

end Operator

end GpuFleet
