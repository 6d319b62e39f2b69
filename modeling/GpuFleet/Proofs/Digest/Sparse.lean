import GpuFleet.Digest.Object
import GpuFleet.Proofs.Digest.Fnv
import GpuFleet.Proofs.Json.Canonical
import GpuFleet.Proofs.Text.Split

/-!
What the sparse text of an object says. Nothing stands between one member and the next, and names
are written as they are. So the text tells the members of two objects apart where every name shows
by itself that the value before it ends and where the value behind it begins; and it tells the
values apart where the names are the same in both. Otherwise it need not: whatever two members an
object has, some other object has the same text.
-/
namespace GpuFleet.Digest

/-- A name that ends at the first colon, and that no number goes on with. -/
def isPlainName (key : String) : Bool :=
  !key.toList.contains ':' && !Number.goesOn key.toList

/-- What a member contributes to the sparse digest; nothing where it is zero. -/
def effective? (v : Json) : Option String := if isZero v then none else some v.canonical

/-- The value of a member that is there and not zero. -/
def nonzero? (members : Members) (key : String) : Option Json :=
  (members.lookup key).filter fun v => !isZero v

theorem nonzero?_eq_some_iff {members : Members} {key : String} {v : Json} :
    nonzero? members key = some v ↔ members.lookup key = some v ∧ isZero v = false := by
  rw [nonzero?, Option.filter_eq_some_iff]
  simp

theorem map_canonical_nonzero? (members : Members) (key : String) :
    (nonzero? members key).map Json.canonical = (members.lookup key).bind effective? := by
  rw [nonzero?]
  cases members.lookup key with
  | none => rfl
  | some v => cases h : isZero v <;> simp [effective?, Option.filter, h]

theorem isZero_sorted (v : Json) : isZero v.sorted = isZero v := by
  cases v with
  | array items => cases items <;> rfl
  | object members =>
    cases members with
    | nil => rfl
    | cons m rest =>
      have hne : Json.sortedMembers (m :: rest) ≠ [] := by
        intro h
        have hm := Json.lookup_sortedMembers m.1 (m :: rest)
        rw [h, List.lookup_cons_self] at hm
        cases hm
      rw [Json.sorted, isZero, isZero, List.isEmpty_eq_false_iff.mpr hne]
      rfl
  | _ => rfl

/-! ## The members that are written -/

/-- The members that are not zero. -/
private def nonzero (members : Members) : Members := members.filter fun m => !isZero m.2

/-- The members that are written, in the order of writing. -/
private def written (members : Members) : Members := nonzero (Json.sortedMembers members)

private theorem writeSparse_cons {m : String × Json} {members : Members} (r : List Char)
    (h : isZero m.2 = false) :
    writeSparse r (m :: members) = m.1.toList ++ ':' :: m.2.write (writeSparse r members) := by
  rw [writeSparse, h]
  rfl

private theorem length_writeSparse_lt {m : String × Json} {members : Members}
    (h : isZero m.2 = false) :
    (writeSparse [] members).length < (writeSparse [] (m :: members)).length := by
  rw [writeSparse_cons [] h, Json.write_append]
  simp only [List.length_append, List.length_cons]
  omega

private theorem writeSparse_append (r : List Char) (ms ns : Members) :
    writeSparse r (ms ++ ns) = writeSparse [] ms ++ writeSparse r ns := by
  induction ms with
  | nil => rfl
  | cons m rest ih =>
    cases h : isZero m.2 with
    | true => simp only [List.cons_append, writeSparse, if_pos h, ih]
    | false =>
      rw [List.cons_append, writeSparse_cons r h, writeSparse_cons [] h, ih, Json.write_append,
        Json.write_append m.2 (writeSparse [] rest)]
      simp only [List.append_assoc, List.cons_append]

private theorem writeSparse_nonzero (r : List Char) (members : Members) :
    writeSparse r (nonzero members) = writeSparse r members := by
  induction members with
  | nil => rfl
  | cons m rest ih =>
    cases h : isZero m.2 with
    | true => rw [writeSparse, if_pos h, nonzero, List.filter_cons_of_neg (by simp [h])]; exact ih
    | false =>
      rw [nonzero, List.filter_cons_of_pos (by simp [h]), writeSparse_cons r h,
        writeSparse_cons r h]
      exact congrArg _ (congrArg _ (congrArg _ ih))

private theorem sparseText_eq (members : Members) :
    sparseText members = String.ofList (writeSparse [] (written members)) := by
  rw [sparseText, written, writeSparse_nonzero]

private theorem isZero_of_mem_written {members : Members} :
    ∀ m ∈ written members, isZero m.2 = false := by
  intro m h
  simpa using (List.mem_filter.mp h).2

private theorem ascending_written (members : Members) : (written members).Ascending :=
  (Json.ascending_sortedMembers members).filter _

private theorem lookup_nonzero (key : String) {members : Members} (h : members.Ascending) :
    (nonzero members).lookup key = nonzero? members key := by
  rw [nonzero?]
  induction members with
  | nil => rfl
  | cons m rest ih =>
    obtain ⟨k, v⟩ := m
    have hrest := ih h.of_cons
    by_cases hkey : key = k
    · subst hkey
      have hnone : rest.lookup key = none :=
        Members.lookup_eq_none_of_lt fun m hm => List.rel_of_pairwise_cons h hm
      cases hv : isZero v with
      | true =>
        rw [nonzero, List.filter_cons_of_neg (by simp [hv]), ← nonzero, hrest, hnone,
          List.lookup_cons_self]
        simp [Option.filter, hv]
      | false =>
        rw [nonzero, List.filter_cons_of_pos (by simp [hv]), List.lookup_cons_self,
          List.lookup_cons_self]
        simp [Option.filter, hv]
    · have hne := beq_false_of_ne hkey
      cases hv : isZero v with
      | true =>
        rw [nonzero, List.filter_cons_of_neg (by simp [hv]), ← nonzero, hrest]
        simp [List.lookup_cons, hne]
      | false =>
        rw [nonzero, List.filter_cons_of_pos (by simp [hv]), ← nonzero]
        simp [List.lookup_cons, hne, hrest]

private theorem nonzero?_sortedMembers (members : Members) (key : String) :
    nonzero? (Json.sortedMembers members) key = (nonzero? members key).map Json.sorted := by
  rw [nonzero?, nonzero?, Json.lookup_sortedMembers]
  cases members.lookup key with
  | none => rfl
  | some v => cases h : isZero v <;> simp [Option.filter, isZero_sorted, h]

private theorem lookup_written (members : Members) (key : String) :
    (written members).lookup key = (nonzero? members key).map Json.sorted := by
  rw [written, lookup_nonzero key (Json.ascending_sortedMembers members), nonzero?_sortedMembers]

private theorem isSome_of_mem_written {members : Members} {m : String × Json}
    (h : m ∈ written members) : (nonzero? members m.1).isSome = true := by
  rw [← Option.isSome_map (f := Json.sorted), ← lookup_written, Option.isSome_iff_ne_none]
  intro hnone
  simpa using List.lookup_eq_none_iff.mp hnone m h

/-- The same is written of two objects exactly if every name contributes the same in both. -/
private theorem forall₂_written_iff {ms ns : Members} :
    List.Forall₂ (fun m n => m.1 = n.1 ∧ m.2.text = n.2.text) (written ms) (written ns) ↔
      ∀ key, (nonzero? ms key).map Json.canonical = (nonzero? ns key).map Json.canonical := by
  rw [Members.forall₂_iff_lookup Json.text (ascending_written ms) (ascending_written ns)]
  simp only [lookup_written, Option.map_map]
  rfl

private theorem forall₂_names_iff {ms ns : Members} :
    List.Forall₂ (fun m n => m.1 = n.1) (written ms) (written ns) ↔
      ∀ key, (nonzero? ms key).isSome = (nonzero? ns key).isSome := by
  have h := Members.forall₂_iff_lookup (fun _ => ()) (ascending_written ms) (ascending_written ns)
  simp only [and_true] at h
  rw [h]
  refine forall_congr' fun key => ?_
  rw [lookup_written, lookup_written]
  cases nonzero? ms key <;> cases nonzero? ns key <;> simp

/-! ## Texts taken apart -/

private theorem not_colon_mem {key : String} (h : isPlainName key = true) :
    ':' ∉ key.toList := by
  simp only [isPlainName, Bool.and_eq_true] at h
  simpa using h.1

/-- No number goes on with a plain name. -/
private theorem follows_name {key : String} (h : isPlainName key = true) (r : List Char) :
    Json.Follows (key.toList ++ ':' :: r) := by
  rw [Json.Follows, Number.goesOn_append_cons (by decide)]
  simp only [isPlainName, Bool.and_eq_true] at h
  simpa using h.2

/-- What follows a value: the end of the text, or the next name. -/
private theorem follows_writeSparse {members : Members}
    (hzero : ∀ m ∈ members, isZero m.2 = false)
    (hplain : ∀ m ∈ members, isPlainName m.1 = true) : Json.Follows (writeSparse [] members) := by
  cases members with
  | nil => exact Json.follows_nil
  | cons m rest =>
    rw [writeSparse_cons [] (hzero m List.mem_cons_self)]
    exact follows_name (hplain m List.mem_cons_self) _

/-- The first colon parts a text in one way. -/
private theorem split_colon {k l x y : List Char} (hk : ':' ∉ k) (hl : ':' ∉ l)
    (h : k ++ ':' :: x = l ++ ':' :: y) : k = l ∧ x = y := by
  have hother {cs : List Char} (hcs : ':' ∉ cs) : ∀ c ∈ cs, c ≠ ':' :=
    fun _ hc heq => hcs (heq ▸ hc)
  obtain ⟨hkl, hxy⟩ := Text.split_at_first (hother hk) (hother hl) (by simp) (by simp) h
  exact ⟨hkl, List.tail_eq_of_cons_eq hxy⟩

/-- Plain names and the values behind them can be told from the text. -/
private theorem writeSparse_inj {ms ns : Members}
    (hms : ∀ m ∈ ms, isZero m.2 = false) (hns : ∀ n ∈ ns, isZero n.2 = false)
    (hmk : ∀ m ∈ ms, isPlainName m.1 = true) (hnk : ∀ n ∈ ns, isPlainName n.1 = true)
    (h : writeSparse [] ms = writeSparse [] ns) :
    List.Forall₂ (fun m n => m.1 = n.1 ∧ m.2.text = n.2.text) ms ns := by
  induction ms generalizing ns with
  | nil =>
    cases ns with
    | nil => exact .nil
    | cons n ns =>
      rw [writeSparse_cons [] (hns n List.mem_cons_self), writeSparse] at h
      exact absurd h.symm (by simp)
  | cons m ms ih =>
    rw [writeSparse_cons [] (hms m List.mem_cons_self)] at h
    cases ns with
    | nil => exact absurd h (by simp [writeSparse])
    | cons n ns =>
      rw [writeSparse_cons [] (hns n List.mem_cons_self)] at h
      simp only [List.forall_mem_cons] at hms hns hmk hnk
      obtain ⟨hname, hvalue⟩ := split_colon (not_colon_mem hmk.1) (not_colon_mem hnk.1) h
      have hparts := Json.write_inj (fun _ => follows_writeSparse hms.2 hmk.2)
        (fun _ => follows_writeSparse hns.2 hnk.2) hvalue
      exact .cons ⟨String.toList_inj.mp hname, hparts.1⟩ (ih hms.2 hns.2 hmk.2 hnk.2 hparts.2)

/-- Two numbers with one name behind them show where they end, whatever the name: the first colon
behind them is as far away as the name says. -/
private theorem write_number_inj {m n : Number} {key x y : List Char}
    (h : (Json.number m).write (key ++ ':' :: x) = (Json.number n).write (key ++ ':' :: y)) :
    (Json.number m).text = (Json.number n).text ∧ x = y := by
  have hcolon : ∀ n : Number, ':' ∉ n.chars := by
    intro n hmem
    have htext := Number.isTextChar_of_mem_chars hmem
    revert htext
    decide
  have hfirst : ∀ z : List Char, (key ++ ':' :: z).idxOf ':' = (key ++ [':']).idxOf ':' := by
    intro z
    rw [List.idxOf_append, List.idxOf_append, List.idxOf_cons_self, List.idxOf_cons_self]
  rw [Json.write, Json.write] at h
  have hlength : m.chars.length = n.chars.length := by
    have hplace := congrArg (List.idxOf ':') h
    rw [List.idxOf_append_of_notMem (hcolon m), List.idxOf_append_of_notMem (hcolon n),
      hfirst x, hfirst y] at hplace
    exact Nat.add_right_cancel hplace
  obtain ⟨hchars, hrest⟩ := List.append_inj h hlength
  refine ⟨?_, List.tail_eq_of_cons_eq (List.append_cancel_left hrest)⟩
  rw [Json.text_eq_iff, Json.write, Json.write, hchars]

/-- With one name behind them, values of every kind show where they end. -/
private theorem write_inj_of_name {v w : Json} {key x y : List Char}
    (h : v.write (key ++ ':' :: x) = w.write (key ++ ':' :: y)) : v.text = w.text ∧ x = y := by
  have hkind := Json.kind_eq h
  by_cases hv : v.isNumber = true
  · obtain ⟨m, rfl⟩ := Json.isNumber_iff.mp hv
    obtain ⟨n, rfl⟩ := Json.isNumber_iff.mp (Json.isNumber_eq_of_kind_eq hkind ▸ hv)
    exact write_number_inj h
  · have hw : ¬ w.isNumber = true := Json.isNumber_eq_of_kind_eq hkind ▸ hv
    obtain ⟨htext, hrest⟩ := Json.write_inj (absurd · hv) (absurd · hw) h
    exact ⟨htext, List.tail_eq_of_cons_eq (List.append_cancel_left hrest)⟩

/-- Where the names are known, the values behind them can be told from the text. -/
private theorem writeSparse_inj_of_names {ms ns : Members}
    (hms : ∀ m ∈ ms, isZero m.2 = false) (hns : ∀ n ∈ ns, isZero n.2 = false)
    (hnames : List.Forall₂ (fun m n => m.1 = n.1) ms ns)
    (h : writeSparse [] ms = writeSparse [] ns) :
    List.Forall₂ (fun m n => m.1 = n.1 ∧ m.2.text = n.2.text) ms ns := by
  induction hnames with
  | nil => exact .nil
  | @cons m n ms ns hname hnames ih =>
    simp only [List.forall_mem_cons] at hms hns
    rw [writeSparse_cons [] hms.1, writeSparse_cons [] hns.1, hname] at h
    have hvalue := List.tail_eq_of_cons_eq (List.append_cancel_left h)
    have hparts : m.2.text = n.2.text ∧ writeSparse [] ms = writeSparse [] ns := by
      cases hnames with
      | nil => exact Json.write_inj (fun _ => Json.follows_nil) (fun _ => Json.follows_nil) hvalue
      | cons hnext _ =>
        rw [writeSparse_cons [] (hms.2 _ List.mem_cons_self),
          writeSparse_cons [] (hns.2 _ List.mem_cons_self), hnext] at hvalue ⊢
        obtain ⟨htext, hrest⟩ := write_inj_of_name hvalue
        exact ⟨htext, by rw [hrest]⟩
    exact .cons ⟨hname, hparts.1⟩ (ih hms.2 hns.2 hparts.2)

private theorem writeSparse_congr {ms ns : Members}
    (hms : ∀ m ∈ ms, isZero m.2 = false) (hns : ∀ n ∈ ns, isZero n.2 = false)
    (h : List.Forall₂ (fun m n => m.1 = n.1 ∧ m.2.text = n.2.text) ms ns) :
    writeSparse [] ms = writeSparse [] ns := by
  induction h with
  | nil => rfl
  | cons hm _ ih =>
    simp only [List.forall_mem_cons] at hms hns
    rw [writeSparse_cons [] hms.1, writeSparse_cons [] hns.1, hm.1, ih hms.2 hns.2,
      Json.write_congr hm.2]

/-! ## Objects of one sparse text -/

/-- Where every name contributes the same, the texts are the same. -/
theorem sparseText_congr {ms ns : Members}
    (h : ∀ key, (nonzero? ms key).map Json.canonical = (nonzero? ns key).map Json.canonical) :
    sparseText ms = sparseText ns := by
  rw [sparseText_eq, sparseText_eq, writeSparse_congr isZero_of_mem_written isZero_of_mem_written
    (forall₂_written_iff.mpr h)]

/-- Objects of one text, whose members that are not zero have plain names, are the same but for
zero members. -/
theorem nonzero?_eq_of_plain {ms ns : Members}
    (hms : ∀ key, (nonzero? ms key).isSome = true → isPlainName key = true)
    (hns : ∀ key, (nonzero? ns key).isSome = true → isPlainName key = true)
    (h : sparseText ms = sparseText ns) (key : String) :
    (nonzero? ms key).map Json.canonical = (nonzero? ns key).map Json.canonical := by
  rw [sparseText_eq, sparseText_eq, String.ofList_inj] at h
  exact forall₂_written_iff.mp (writeSparse_inj isZero_of_mem_written isZero_of_mem_written
    (fun m hm => hms m.1 (isSome_of_mem_written hm))
    (fun n hn => hns n.1 (isSome_of_mem_written hn)) h) key

/-- So are objects of one text in which the same names have values that are not zero. -/
theorem nonzero?_eq_of_names {ms ns : Members}
    (hnames : ∀ key, (nonzero? ms key).isSome = (nonzero? ns key).isSome)
    (h : sparseText ms = sparseText ns) (key : String) :
    (nonzero? ms key).map Json.canonical = (nonzero? ns key).map Json.canonical := by
  rw [sparseText_eq, sparseText_eq, String.ofList_inj] at h
  exact forall₂_written_iff.mp (writeSparse_inj_of_names isZero_of_mem_written
    isZero_of_mem_written (forall₂_names_iff.mpr hnames) h) key

/-- A name that stands for a new value makes the text longer. -/
private theorem length_writeSparse_insertSorted {members : Members} {key : String} {v : Json}
    (hnone : nonzero? members key = none) (hv : isZero v = false) :
    (writeSparse [] members).length <
      (writeSparse [] (Json.insertSorted key v members)).length := by
  induction members with
  | nil => exact length_writeSparse_lt hv
  | cons m rest ih =>
    obtain ⟨k, w⟩ := m
    rw [Json.insertSorted]
    split_ifs with hlt hk
    · exact length_writeSparse_lt hv
    · subst hk
      have hw : isZero w = true := by simpa [nonzero?, Option.filter] using hnone
      rw [writeSparse, if_pos hw]
      exact length_writeSparse_lt hv
    · have hrest := ih (by simpa [nonzero?, List.lookup_cons, beq_false_of_ne (Ne.symm hk)] using
        hnone)
      cases hw : isZero w with
      | true => rwa [writeSparse, if_pos hw, writeSparse, if_pos hw]
      | false =>
        rw [writeSparse_cons [] hw, writeSparse_cons [] hw, Json.write_append,
          Json.write_append w (writeSparse [] (Json.insertSorted key v rest))]
        simp only [List.length_append, List.length_cons]
        omega

/-- A member more that is not zero shows in the text, whatever its name. -/
theorem sparseText_cons_ne {members : Members} {key : String} {v : Json}
    (hnone : nonzero? members key = none) (hv : isZero v = false) :
    sparseText ((key, v) :: members) ≠ sparseText members := by
  intro h
  rw [sparseText, sparseText, String.ofList_inj, Json.sortedMembers] at h
  have hsorted : nonzero? (Json.sortedMembers members) key = none := by
    rw [nonzero?_sortedMembers, hnone, Option.map_none]
  have hlt := length_writeSparse_insertSorted hsorted ((isZero_sorted v).trans hv)
  rw [h] at hlt
  exact lt_irrefl _ hlt

private theorem exists_sorted_of_mem {members : Members} {m : String × Json}
    (h : m ∈ Json.sortedMembers members) : ∃ v : Json, m.2 = v.sorted := by
  induction members with
  | nil => cases h
  | cons n rest ih =>
    rcases Json.mem_insertSorted h with rfl | h
    · exact ⟨n.2, rfl⟩
    · exact ih h

/-- All members that are written may be read as one member: what stands before the last value is
its name. -/
theorem exists_single_sparseText_eq {members : Members} {key : String}
    (h : (nonzero? members key).isSome = true) :
    ∃ name v, isZero v = false ∧ sparseText [(name, v)] = sparseText members := by
  have hne : written members ≠ [] := by
    intro hnil
    have hkey := lookup_written members key
    rw [hnil, List.lookup_nil] at hkey
    rw [Option.map_eq_none_iff.mp hkey.symm] at h
    cases h
  obtain ⟨init, last, hlast⟩ := (List.eq_nil_or_concat (written members)).resolve_left hne
  have hmem : last ∈ written members := by rw [hlast]; simp
  obtain ⟨v, hv⟩ := exists_sorted_of_mem (List.mem_of_mem_filter hmem)
  have hlastzero := isZero_of_mem_written last hmem
  have hzero : isZero v = false := by rwa [hv, isZero_sorted] at hlastzero
  refine ⟨String.ofList (writeSparse [] init ++ last.1.toList), v, hzero, ?_⟩
  rw [sparseText_eq members, hlast, List.concat_eq_append, writeSparse_append,
    writeSparse_cons [] hlastzero, sparseText,
    Json.sortedMembers, Json.sortedMembers, Json.insertSorted,
    writeSparse_cons [] ((isZero_sorted v).trans hzero), hv, String.toList_ofList,
    List.append_assoc]

/-- Objects with plain names have one sparse text exactly if every name contributes the same in
both. -/
theorem sparseText_eq_iff {ms ns : Members} (hms : ∀ m ∈ ms, isPlainName m.1 = true)
    (hns : ∀ n ∈ ns, isPlainName n.1 = true) :
    sparseText ms = sparseText ns ↔
      ∀ key, (ms.lookup key).bind effective? = (ns.lookup key).bind effective? := by
  have hplain : ∀ {members : Members}, (∀ m ∈ members, isPlainName m.1 = true) →
      ∀ key, (nonzero? members key).isSome = true → isPlainName key = true := by
    intro members hmembers key hkey
    obtain ⟨v, hv⟩ := Option.isSome_iff_exists.mp hkey
    obtain ⟨before, after, rfl, -⟩ :=
      List.lookup_eq_some_iff.mp (nonzero?_eq_some_iff.mp hv).1
    exact hmembers (key, v) (List.mem_append_right _ List.mem_cons_self)
  simp only [← map_canonical_nonzero?]
  exact ⟨nonzero?_eq_of_plain (hplain hms) (hplain hns), sparseText_congr⟩

end GpuFleet.Digest
