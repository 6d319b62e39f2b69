import GpuFleet.Proofs.Json.NumberText
import GpuFleet.Proofs.Json.StringText
import Mathlib.Data.List.Forall2

/-!
A compact text can be read in one way only. The text of a value shows where it ends, so that two
values of one text have the same constructor, and their parts, taken in order, have equal texts.
Numbers are the exception: their texts end where something follows with which no number goes on.
-/
namespace GpuFleet.Json

open Number (isTextChar goesOn IsText)

/-- A text that may stand behind a value: no number goes on with it. -/
def Follows (rest : List Char) : Prop := goesOn rest = false

theorem follows_nil : Follows [] := rfl

theorem follows_cons {c : Char} (h : isTextChar c = false) (rest : List Char) :
    Follows (c :: rest) := by
  refine Bool.eq_false_iff.mpr fun hgoesOn => ?_
  rw [Number.isTextChar_of_goesOn hgoesOn] at h
  cases h

/-! ## The text that follows -/

theorem writeChars_append (cs r : List Char) : writeChars r cs = writeChars [] cs ++ r := by
  induction cs with
  | nil => rfl
  | cons c cs ih =>
    rw [writeChars, writeChars, ih, List.append_assoc]

theorem writeString_append (s : String) (r : List Char) :
    writeString s r = writeString s [] ++ r := by
  rw [writeString, writeString, writeChars_append, List.cons_append]

mutual

theorem write_append : ∀ (v : Json) (r : List Char), v.write r = v.write [] ++ r
  | .null, _ | .bool true, _ | .bool false, _ => by simp [write]
  | .number _, _ => by simp [write]
  | .string s, r => by rw [write, write, writeString_append]
  | .array items, r => by rw [write, write, writeItems_append, List.cons_append]
  | .object members, r => by rw [write, write, writeMembers_append, List.cons_append]

theorem writeItems_append :
    ∀ (vs : List Json) (first : Bool) (r : List Char),
      writeItems vs first r = writeItems vs first [] ++ r
  | [], _, _ => rfl
  | v :: vs, true, r => by
    rw [writeItems, writeItems, writeItems_append vs false r, write_append v,
      write_append v (writeItems vs false []), List.append_assoc]
  | v :: vs, false, r => by
    rw [writeItems, writeItems, writeItems_append vs false r, write_append v,
      write_append v (writeItems vs false []), List.cons_append, List.append_assoc]

theorem writeMembers_append :
    ∀ (ms : List (String × Json)) (first : Bool) (r : List Char),
      writeMembers ms first r = writeMembers ms first [] ++ r
  | [], _, _ => rfl
  | (k, v) :: ms, true, r => by
    rw [writeMembers, writeMembers, writeMembers_append ms false r, write_append v,
      write_append v (writeMembers ms false []), writeString_append,
      writeString_append k (':' :: _)]
    simp
  | (k, v) :: ms, false, r => by
    rw [writeMembers, writeMembers, writeMembers_append ms false r, write_append v,
      write_append v (writeMembers ms false []), writeString_append,
      writeString_append k (':' :: _)]
    simp

end

/-! ## Where a text ends -/

/-- The constructor that a text starts, told from its first character. -/
private def opening (c : Char) : Nat :=
  if c = 'n' then 0
  else if c = 't' then 1
  else if c = 'f' then 2
  else if c = '"' then 3
  else if c = '[' then 4
  else if c = '\x7b' then 5
  else if isTextChar c then 6
  else 7

/-- The constructor of a value; the two truth values count as two. -/
def kind : Json → Nat
  | .null => 0
  | .bool true => 1
  | .bool false => 2
  | .string _ => 3
  | .array _ => 4
  | .object _ => 5
  | .number _ => 6

private theorem opening_of_isTextChar {c : Char} (h : isTextChar c = true) : opening c = 6 := by
  have hne : ∀ d ∈ ['n', 't', 'f', '"', '[', '\x7b'], c ≠ d := by
    rintro d hd rfl
    revert h
    simp only [List.mem_cons, List.not_mem_nil, or_false] at hd
    rcases hd with rfl | rfl | rfl | rfl | rfl | rfl <;> decide
  simp only [List.mem_cons, List.not_mem_nil, or_false, forall_eq_or_imp, forall_eq] at hne
  simp only [opening, if_neg hne.1, if_neg hne.2.1, if_neg hne.2.2.1, if_neg hne.2.2.2.1,
    if_neg hne.2.2.2.2.1, if_neg hne.2.2.2.2.2, if_pos h]

private theorem write_opening (v : Json) (r : List Char) :
    ∃ c cs, v.write r = c :: cs ∧ opening c = kind v := by
  cases v with
  | null => exact ⟨'n', _, rfl, rfl⟩
  | bool b =>
    cases b with
    | false => exact ⟨'f', _, rfl, rfl⟩
    | true => exact ⟨'t', _, rfl, rfl⟩
  | number n =>
    obtain ⟨c, cs, h⟩ := List.exists_cons_of_ne_nil n.chars_ne_nil
    refine ⟨c, cs ++ r, by rw [write, h, List.cons_append], ?_⟩
    exact opening_of_isTextChar (Number.isTextChar_of_mem_chars (h ▸ List.mem_cons_self))
  | string s => exact ⟨'"', _, rfl, rfl⟩
  | array items => exact ⟨'[', _, rfl, rfl⟩
  | object members => exact ⟨'\x7b', _, rfl, rfl⟩

theorem kind_eq {v w : Json} {r s : List Char} (h : v.write r = w.write s) :
    kind v = kind w := by
  obtain ⟨c, cs, hv, hc⟩ := write_opening v r
  obtain ⟨d, ds, hw, hd⟩ := write_opening w s
  rw [hv, hw] at h
  cases h
  exact hc.symm.trans hd

private theorem write_ne_close {v : Json} {r s : List Char} {c : Char} (hc : opening c = 7) :
    v.write r ≠ c :: s := by
  intro h
  obtain ⟨d, ds, hv, hd⟩ := write_opening v r
  rw [hv] at h
  cases h
  rw [hc] at hd
  cases v with
  | bool b => cases b <;> cases hd
  | _ => cases hd

/-- Two texts of numbers end together, where no number goes on. -/
private theorem numberText_rest {cs ds r s : List Char} (hc : IsText cs) (hd : IsText ds)
    (hr : Follows r) (hs : Follows s) (h : cs ++ r = ds ++ s) : r = s := by
  induction hc generalizing ds with
  | nil =>
    cases hd with
    | nil => exact h
    | cons hfirst _ =>
      rw [List.nil_append] at h
      rw [Follows, h, Number.goesOn_append hfirst] at hr
      cases hr
  | cons hfirst _ ih =>
    cases hd with
    | nil =>
      rw [List.nil_append] at h
      rw [Follows, ← h, Number.goesOn_append hfirst] at hs
      cases hs
    | cons _ hrest =>
      simp only [List.cons_append, List.cons.injEq] at h
      exact ih hrest h.2

/-- The text behind the items or members that are left, which a comma or a closing mark starts. -/
private theorem follows_items (vs : List Json) (r : List Char) :
    Follows (writeItems vs false r) := by
  cases vs with
  | nil => exact follows_cons (by decide) r
  | cons v vs => exact follows_cons (by decide) _

private theorem follows_members (ms : List (String × Json)) (r : List Char) :
    Follows (writeMembers ms false r) := by
  cases ms with
  | nil => exact follows_cons (by decide) r
  | cons m ms => exact follows_cons (by decide) _

/-- A number, whose text does not show where it ends. -/
def isNumber : Json → Bool
  | .number _ => true
  | .null | .bool _ | .string _ | .array _ | .object _ => false

theorem isNumber_iff {v : Json} : v.isNumber = true ↔ ∃ n, v = .number n := by
  cases v <;> simp [isNumber]

theorem isNumber_eq_of_kind_eq {v w : Json} (h : kind v = kind w) : v.isNumber = w.isNumber := by
  have hkind : ∀ v : Json, v.isNumber = decide (kind v = 6) := by
    intro v
    cases v with
    | bool b => cases b <;> rfl
    | _ => rfl
  rw [hkind, hkind, h]

mutual

/-- Where two values with what follows them have one text, the same follows both. -/
theorem write_rest : ∀ (v w : Json) {r s : List Char}, (v.isNumber = true → Follows r) →
    (w.isNumber = true → Follows s) → v.write r = w.write s → r = s
  | .null, w, r, s, _, _, h => by
    cases w with
    | null => simpa [write] using h
    | bool b => cases b <;> exact absurd (kind_eq h) (by decide)
    | _ => exact absurd (kind_eq h) (by simp [kind])
  | .bool true, w, r, s, _, _, h => by
    cases w with
    | bool b =>
      cases b with
      | true => simpa [write] using h
      | false => exact absurd (kind_eq h) (by decide)
    | _ => exact absurd (kind_eq h) (by simp [kind])
  | .bool false, w, r, s, _, _, h => by
    cases w with
    | bool b =>
      cases b with
      | false => simpa [write] using h
      | true => exact absurd (kind_eq h) (by decide)
    | _ => exact absurd (kind_eq h) (by simp [kind])
  | .number m, w, r, s, hr, hs, h => by
    cases w with
    | number n =>
      exact numberText_rest m.isText_chars n.isText_chars (hr rfl) (hs rfl) h
    | bool b => cases b <;> exact absurd (kind_eq h) (by simp [kind])
    | _ => exact absurd (kind_eq h) (by simp [kind])
  | .string a, w, r, s, _, _, h => by
    cases w with
    | string b => exact (writeString_inj h).2
    | bool b => cases b <;> exact absurd (kind_eq h) (by simp [kind])
    | _ => exact absurd (kind_eq h) (by simp [kind])
  | .array vs, w, r, s, _, _, h => by
    cases w with
    | array ws =>
      rw [write, write, List.cons.injEq] at h
      exact writeItems_rest vs ws true h.2
    | bool b => cases b <;> exact absurd (kind_eq h) (by simp [kind])
    | _ => exact absurd (kind_eq h) (by simp [kind])
  | .object ms, w, r, s, _, _, h => by
    cases w with
    | object ns =>
      rw [write, write, List.cons.injEq] at h
      exact writeMembers_rest ms ns true h.2
    | bool b => cases b <;> exact absurd (kind_eq h) (by simp [kind])
    | _ => exact absurd (kind_eq h) (by simp [kind])

theorem writeItems_rest : ∀ (vs ws : List Json) (first : Bool) {r s : List Char},
    writeItems vs first r = writeItems ws first s → r = s
  | [], [], first, r, s, h => by simpa [writeItems] using h
  | [], w :: ws, true, r, s, h => absurd h.symm (write_ne_close (by decide))
  | v :: vs, [], true, r, s, h => absurd h (write_ne_close (by decide))
  | [], w :: ws, false, r, s, h => by simp [writeItems] at h
  | v :: vs, [], false, r, s, h => by simp [writeItems] at h
  | v :: vs, w :: ws, true, r, s, h => by
    rw [writeItems, writeItems] at h
    exact writeItems_rest vs ws false
      (write_rest v w (fun _ => follows_items vs r) (fun _ => follows_items ws s) h)
  | v :: vs, w :: ws, false, r, s, h => by
    rw [writeItems, writeItems, List.cons.injEq] at h
    exact writeItems_rest vs ws false
      (write_rest v w (fun _ => follows_items vs r) (fun _ => follows_items ws s) h.2)

theorem writeMembers_rest : ∀ (ms ns : List (String × Json)) (first : Bool) {r s : List Char},
    writeMembers ms first r = writeMembers ns first s → r = s
  | [], [], first, r, s, h => by simpa [writeMembers] using h
  | [], (l, w) :: ns, true, r, s, h => by simp [writeMembers, writeString] at h
  | (k, v) :: ms, [], true, r, s, h => by simp [writeMembers, writeString] at h
  | [], (l, w) :: ns, false, r, s, h => by simp [writeMembers] at h
  | (k, v) :: ms, [], false, r, s, h => by simp [writeMembers] at h
  | (k, v) :: ms, (l, w) :: ns, true, r, s, h => by
    rw [writeMembers, writeMembers] at h
    have hrest := (writeString_inj h).2
    rw [List.cons.injEq] at hrest
    exact writeMembers_rest ms ns false
      (write_rest v w (fun _ => follows_members ms r) (fun _ => follows_members ns s) hrest.2)
  | (k, v) :: ms, (l, w) :: ns, false, r, s, h => by
    rw [writeMembers, writeMembers, List.cons.injEq] at h
    have hrest := (writeString_inj h.2).2
    rw [List.cons.injEq] at hrest
    exact writeMembers_rest ms ns false
      (write_rest v w (fun _ => follows_members ms r) (fun _ => follows_members ns s) hrest.2)

end

/-! ## Values of one text -/

theorem text_eq_iff {v w : Json} : v.text = w.text ↔ v.write [] = w.write [] := by
  rw [text, text, String.ofList_inj]

theorem write_congr {v w : Json} (h : v.text = w.text) (r : List Char) : v.write r = w.write r := by
  rw [write_append, write_append w, text_eq_iff.mp h]

/-- The first value of a text and what follows it can be told from the text. -/
theorem write_inj {v w : Json} {r s : List Char} (hr : v.isNumber = true → Follows r)
    (hs : w.isNumber = true → Follows s) (h : v.write r = w.write s) :
    v.text = w.text ∧ r = s := by
  obtain rfl := write_rest v w hr hs h
  rw [write_append, write_append w] at h
  exact ⟨text_eq_iff.mpr (List.append_cancel_right h), rfl⟩

private theorem writeItems_inj {vs ws : List Json} {first : Bool} {r s : List Char}
    (h : writeItems vs first r = writeItems ws first s) :
    List.Forall₂ (fun v w => v.text = w.text) vs ws := by
  induction vs generalizing ws first with
  | nil =>
    cases ws with
    | nil => exact .nil
    | cons w ws =>
      cases first with
      | true => exact absurd h.symm (write_ne_close (by decide))
      | false => simp [writeItems] at h
  | cons v vs ih =>
    cases ws with
    | nil =>
      cases first with
      | true => exact absurd h (write_ne_close (by decide))
      | false => simp [writeItems] at h
    | cons w ws =>
      have hitem : v.write (writeItems vs false r) = w.write (writeItems ws false s) := by
        cases first with
        | true => exact h
        | false => exact List.tail_eq_of_cons_eq h
      have hparts := write_inj (fun _ => follows_items vs r) (fun _ => follows_items ws s) hitem
      exact .cons hparts.1 (ih hparts.2)

private theorem writeItems_congr {vs ws : List Json}
    (h : List.Forall₂ (fun v w => v.text = w.text) vs ws) (first : Bool) (r : List Char) :
    writeItems vs first r = writeItems ws first r := by
  induction h generalizing first with
  | nil => rfl
  | cons hv _ ih => cases first <;> simp only [writeItems, ih false, write_congr hv]

private theorem writeMembers_inj {ms ns : List (String × Json)} {first : Bool} {r s : List Char}
    (h : writeMembers ms first r = writeMembers ns first s) :
    List.Forall₂ (fun m n => m.1 = n.1 ∧ m.2.text = n.2.text) ms ns := by
  induction ms generalizing ns first with
  | nil =>
    cases ns with
    | nil => exact .nil
    | cons n ns => cases first <;> simp [writeMembers, writeString] at h
  | cons m ms ih =>
    obtain ⟨k, v⟩ := m
    cases ns with
    | nil => cases first <;> simp [writeMembers, writeString] at h
    | cons n ns =>
      obtain ⟨l, w⟩ := n
      have hmember : writeString k (':' :: v.write (writeMembers ms false r)) =
          writeString l (':' :: w.write (writeMembers ns false s)) := by
        cases first with
        | true => exact h
        | false => exact List.tail_eq_of_cons_eq h
      have hname := writeString_inj hmember
      have hparts := write_inj (fun _ => follows_members ms r) (fun _ => follows_members ns s)
        (List.tail_eq_of_cons_eq hname.2)
      exact .cons ⟨hname.1, hparts.1⟩ (ih hparts.2)

private theorem writeMembers_congr {ms ns : List (String × Json)}
    (h : List.Forall₂ (fun m n => m.1 = n.1 ∧ m.2.text = n.2.text) ms ns) (first : Bool)
    (r : List Char) : writeMembers ms first r = writeMembers ns first r := by
  induction h generalizing first with
  | nil => rfl
  | cons hm _ ih =>
    obtain ⟨hname, hvalue⟩ := hm
    cases first <;> simp only [writeMembers, ih false, write_congr hvalue, hname]

/-- Arrays have one text exactly if their items have, place by place. -/
theorem text_array_iff {vs ws : List Json} :
    (array vs).text = (array ws).text ↔ List.Forall₂ (fun v w => v.text = w.text) vs ws := by
  rw [text_eq_iff, write, write, List.cons.injEq]
  constructor
  · rintro ⟨-, h⟩
    exact writeItems_inj h
  · intro h
    exact ⟨rfl, writeItems_congr h true []⟩

/-- Objects have one text exactly if their members have the same names in the same order, and under
them values of one text. -/
theorem text_object_iff {ms ns : List (String × Json)} :
    (object ms).text = (object ns).text ↔
      List.Forall₂ (fun m n => m.1 = n.1 ∧ m.2.text = n.2.text) ms ns := by
  rw [text_eq_iff, write, write, List.cons.injEq]
  constructor
  · rintro ⟨-, h⟩
    exact writeMembers_inj h
  · intro h
    exact ⟨rfl, writeMembers_congr h true []⟩

theorem eq_null_of_text_eq {v : Json} (h : v.text = Json.null.text) : v = .null := by
  have hkind := kind_eq (text_eq_iff.mp h)
  cases v with
  | null => rfl
  | bool b => cases b <;> cases hkind
  | _ => cases hkind

/-- A value that its text tells apart from every other one. -/
def isAtom : Json → Bool
  | .null | .bool _ | .number (.int _) | .string _ => true
  | .number (.real _) | .array _ | .object _ => false

theorem eq_of_text_eq {v w : Json} (hv : v.isAtom = true) (hw : w.isAtom = true)
    (h : v.text = w.text) : v = w := by
  have htext := text_eq_iff.mp h
  have hkind := kind_eq htext
  cases v with
  | null => cases w with
    | null => rfl
    | bool b => cases b <;> cases hkind
    | _ => cases hkind
  | bool a => cases w with
    | bool b => cases a <;> cases b <;> first | rfl | cases hkind
    | _ => cases a <;> cases hkind
  | number m => cases w with
    | number n => cases m with
      | real x => cases hv
      | int m => cases n with
        | real y => cases hw
        | int n =>
          rw [write, write, List.append_nil, List.append_nil] at htext
          rw [Number.int_of_chars_eq htext]
    | bool b => cases b <;> cases hkind
    | _ => cases hkind
  | string s => cases w with
    | string t => rw [(writeString_inj htext).1]
    | bool b => cases b <;> cases hkind
    | _ => cases hkind
  | array vs => cases hv
  | object ms => cases hv

end GpuFleet.Json
