import GpuFleet.Proofs.Retry.Backoff
import GpuFleet.Retry.Record

/-!
What is remembered of failed passes. The entry of a policy is decided by the number of its failures
since its last success, and what happens to other policies leaves it as it is.
-/
namespace GpuFleet.Retry

/-- The entry of a policy with `n` failures since its last success. -/
def Entry.after (n : Nat) : Entry where
  backoff := .after 5 300 n
  errors := .ofNat n

namespace Record

variable {r : Record} {key k : String} {n : Nat}

theorem entry_empty (key : String) : (∅ : Record).entry key = .after 0 := by
  simp [entry, Entry.after, ← Backoff.default_eq_after]

theorem entry_insert (e : Entry) :
    entry (r.insert key e) k = if key = k then e else r.entry k := by
  simp [entry, Std.ExtTreeMap.getD_insert]

/-- The record after a pass for a policy. -/
def note (r : Record) (key : String) (failed : Bool) : Record :=
  if failed then ((r.noteError key).delay key).2 else r.forgive key

/-- After a failure the delay is that of the failures so far, this one included, which are
counted. -/
theorem delay_noteError (h : r.entry key = .after n) :
    (r.noteError key).delay key = ((min (5 * Nat.fib (n + 1)) 300, .ofNat (n + 1)),
      (r.noteError key).insert key (.after (n + 1))) := by
  have hmax : 300 ≤ maxSeconds := by decide
  have hcount : UInt32.ofNat n + 1 = .ofNat (n + 1) := (UInt32.ofNat_add n 1).symm
  simp only [delay, noteError, entry_insert, if_true, h, Entry.after, Backoff.next_after hmax,
    hcount]

theorem entry_note_failed (h : r.entry key = .after n) :
    (r.note key true).entry key = .after (n + 1) := by
  rw [note, if_pos rfl, delay_noteError h, entry_insert, if_pos rfl]

theorem forgive_of_none (h : r[key]? = none) : r.forgive key = r := by
  rw [forgive, h]

theorem entry_note_succeeded (h : r.entry key = .after n) :
    (r.note key false).entry key = .after 0 := by
  rw [note, if_neg Bool.false_ne_true]
  cases hentry : r[key]? with
  | none =>
    rw [forgive_of_none hentry, entry, Std.ExtTreeMap.getD_eq_getD_getElem?, hentry]
    exact entry_empty key
  | some e =>
    have he : e = .after n := by
      rw [← h, entry, Std.ExtTreeMap.getD_eq_getD_getElem?, hentry, Option.getD_some]
    rw [forgive, hentry, entry_insert, if_pos rfl, he, Entry.after,
      Backoff.reset_after (by decide)]
    rfl

/-- A pass for a policy leaves the entries of the others as they are. -/
theorem getElem?_note_of_ne (h : key ≠ k) (failed : Bool) : (r.note key failed)[k]? = r[k]? := by
  have hinsert : ∀ (r : Record) (e : Entry), (r.insert key e)[k]? = r[k]? := by
    intro r e
    rw [Std.ExtTreeMap.getElem?_insert, if_neg (by simpa using h)]
  cases failed with
  | true => rw [note, if_pos rfl, delay, noteError, hinsert, hinsert]
  | false =>
    rw [note, if_neg Bool.false_ne_true, forgive]
    split
    · exact hinsert _ _
    · rfl

theorem entry_note_of_ne (h : key ≠ k) (failed : Bool) :
    (r.note key failed).entry k = r.entry k := by
  rw [entry, entry, Std.ExtTreeMap.getD_eq_getD_getElem?, Std.ExtTreeMap.getD_eq_getD_getElem?,
    getElem?_note_of_ne h]

end Record

end GpuFleet.Retry
