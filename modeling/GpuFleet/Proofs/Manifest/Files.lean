import GpuFleet.Manifest.Tree
import Mathlib.Data.List.Nodup

/-!
The files of a tree. In a tree whose directories list no name twice, the files are what is found at
their paths, in whatever order the directories list their entries. Those whose names end with one of
the suffixes are listed once each, in strictly ascending order of their paths, name by name.
-/
namespace GpuFleet.Manifest

/-- A path comes before another one, name by name. -/
def Path.Before (a b : Path) : Prop := List.Lex (· < ·) a b

theorem Path.compare_eq_lt_iff (a b : Path) : compare a b = .lt ↔ a.Before b := by
  have hname : ∀ x y : String, compare x y = .lt ↔ x < y := fun x y => compareOfLessAndEq_eq_lt
  induction a generalizing b with
  | nil =>
    cases b with
    | nil => exact iff_of_false (by decide) List.not_lex_nil
    | cons y b => exact iff_of_true rfl .nil
  | cons x a ih =>
    cases b with
    | nil => exact iff_of_false Ordering.noConfusion List.not_lex_nil
    | cons y b =>
      rw [List.compare_cons_cons, Ordering.then_eq_lt, hname, Std.compare_eq_iff_eq, Path.Before,
        List.cons_lex_cons_iff]
      exact or_congr_right (and_congr_right fun _ => ih b)

theorem Path.Before.asymm {a b : Path} (hab : a.Before b) : ¬ b.Before a := by
  rw [← compare_eq_lt_iff] at hab ⊢
  rw [Std.OrientedOrd.eq_swap, hab]
  decide

namespace Tree

/-- A tree whose directories list no name twice. -/
inductive Proper : Tree → Prop
  | file (content : ByteArray) : Proper (.file content)
  | dir (entries : List (String × Tree)) (hnames : (entries.map (·.1)).Nodup)
      (hentries : ∀ e ∈ entries, Proper e.2) : Proper (.dir entries)

/-! ## What is listed and what is found -/

/-- With no name twice, what is found under a name is what is listed under it. -/
theorem lookup_eq_some_iff_mem {entries : List (String × Tree)}
    (hnames : (entries.map (·.1)).Nodup) {name : String} {t : Tree} :
    entries.lookup name = some t ↔ (name, t) ∈ entries := by
  induction entries with
  | nil => simp
  | cons e entries ih =>
    obtain ⟨n, u⟩ := e
    obtain ⟨hn, hnames⟩ := List.nodup_cons.mp hnames
    rw [List.lookup_cons, List.mem_cons, Prod.mk.injEq]
    by_cases h : name = n
    · subst h
      have hfresh : (name, t) ∉ entries :=
        fun hmem => hn (List.mem_map.mpr ⟨(name, t), hmem, rfl⟩)
      simp [hfresh, eq_comm]
    · simp [h, ih hnames, beq_false_of_ne h]

theorem entryFiles_eq (entries : List (String × Tree)) :
    entryFiles entries =
      entries.flatMap fun e => (files e.2).map fun f => (e.1 :: f.1, f.2) := by
  induction entries with
  | nil => rfl
  | cons e entries ih =>
    rw [entryFiles, ih, List.flatMap_cons]

theorem mem_entryFiles_iff {entries : List (String × Tree)} {path : Path} {content : ByteArray} :
    (path, content) ∈ entryFiles entries ↔
      ∃ name t rel, (name, t) ∈ entries ∧ path = name :: rel ∧ (rel, content) ∈ files t := by
  rw [entryFiles_eq, List.mem_flatMap]
  constructor
  · rintro ⟨⟨name, t⟩, hmem, hfile⟩
    obtain ⟨⟨rel, c⟩, hrel, heq⟩ := List.mem_map.mp hfile
    cases heq
    exact ⟨name, t, rel, hmem, rfl, hrel⟩
  · rintro ⟨name, t, rel, hmem, rfl, hrel⟩
    exact ⟨(name, t), hmem, List.mem_map.mpr ⟨(rel, content), hrel, rfl⟩⟩

/-- The files of a tree are what is found at their paths. -/
theorem mem_files_iff {t : Tree} (h : t.Proper) (path : Path) (content : ByteArray) :
    (path, content) ∈ t.files ↔ t.find? path = some (.file content) := by
  induction h generalizing path with
  | file c =>
    cases path with
    | nil => simp [files, find?, eq_comm]
    | cons name path => simp [files, find?]
  | dir entries hnames hentries ih =>
    rw [files, mem_entryFiles_iff]
    cases path with
    | nil => simp [find?]
    | cons name path =>
      rw [find?, Option.bind_eq_some_iff]
      constructor
      · rintro ⟨n, t, rel, hmem, hpath, hfile⟩
        obtain ⟨rfl, rfl⟩ := List.cons.inj hpath
        exact ⟨t, (lookup_eq_some_iff_mem hnames).mpr hmem, (ih _ hmem path).mp hfile⟩
      · rintro ⟨t, hlookup, hfind⟩
        have hmem := (lookup_eq_some_iff_mem hnames).mp hlookup
        exact ⟨name, t, path, hmem, rfl, (ih _ hmem path).mpr hfind⟩

/-- No path is there twice. -/
theorem nodup_files {t : Tree} (h : t.Proper) : (t.files.map (·.1)).Nodup := by
  induction h with
  | file c => simp [files]
  | dir entries hnames hentries ih =>
    have hpaths : ∀ e : String × Tree,
        ((files e.2).map fun f => (e.1 :: f.1, f.2)).map (·.1) =
          ((files e.2).map (·.1)).map (e.1 :: ·) := by
      intro e
      rw [List.map_map, List.map_map]
      rfl
    simp only [files, entryFiles_eq, List.map_flatMap, hpaths, List.nodup_flatMap]
    constructor
    · intro e he
      exact (ih e he).map fun a b heq => (List.cons.inj heq).2
    · -- what is below different names starts with different names
      refine (List.pairwise_map.mp hnames).imp fun {d e} hne path hd he => ?_
      obtain ⟨rel, -, rfl⟩ := List.mem_map.mp hd
      obtain ⟨rel', -, heq⟩ := List.mem_map.mp he
      exact hne (List.cons.inj heq).1.symm

/-- What is at a path is found by going down a first part of it and then the rest. -/
theorem find?_append (a b : Path) (t : Tree) : t.find? (a ++ b) = (t.find? a).bind (find? b) := by
  induction a generalizing t with
  | nil => rfl
  | cons name a ih =>
    cases t with
    | file content => rfl
    | dir entries =>
      have hdown : find? (a ++ b) = fun t => (find? a t).bind (find? b) := funext ih
      rw [List.cons_append, find?, find?, hdown, Option.bind_assoc]

/-- What is found in a tree lists no name twice either. -/
theorem Proper.find? {t u : Tree} (h : t.Proper) {path : Path} (hu : t.find? path = some u) :
    u.Proper := by
  induction path generalizing t with
  | nil =>
    obtain rfl := Option.some.inj hu
    exact h
  | cons name path ih =>
    cases h with
    | file content => cases hu
    | dir entries hnames hentries =>
      obtain ⟨v, hlookup, hv⟩ := Option.bind_eq_some_iff.mp hu
      exact ih (hentries _ ((lookup_eq_some_iff_mem hnames).mp hlookup)) hv

/-! ## Sorted files -/

/-- Sorting items with different keys leaves them in strictly ascending order of their keys. -/
theorem pairwise_mergeSort_of_nodup {α κ : Type} (key : α → κ) {le : α → α → Bool}
    {before : κ → κ → Prop} (htrans : ∀ a b c, le a b = true → le b c = true → le a c = true)
    (htotal : ∀ a b, (le a b || le b a) = true)
    (hstrict : ∀ a b, le a b = true → key a ≠ key b → before (key a) (key b)) {as : List α}
    (hkeys : (as.map key).Nodup) :
    (as.mergeSort le).Pairwise fun a b => before (key a) (key b) := by
  have hsorted := List.pairwise_mergeSort htrans htotal as
  have hperm := (List.mergeSort_perm as le).map key
  have hdistinct := List.pairwise_map.mp (hperm.nodup_iff.mpr hkeys)
  exact (hsorted.and hdistinct).imp fun {a b} ⟨hle, hne⟩ => hstrict a b hle hne

theorem pathLe_trans (a b c : Path × ByteArray) (hab : pathLe a b = true)
    (hbc : pathLe b c = true) : pathLe a c = true := Std.TransOrd.isLE_trans hab hbc

theorem pathLe_total (a b : Path × ByteArray) : (pathLe a b || pathLe b a) = true := by
  unfold pathLe
  rw [Std.OrientedOrd.eq_swap (a := b.1)]
  cases compare a.1 b.1 <;> rfl

theorem before_of_pathLe (a b : Path × ByteArray) (hle : pathLe a b = true) (hne : a.1 ≠ b.1) :
    a.1.Before b.1 := by
  rw [← Path.compare_eq_lt_iff]
  unfold pathLe at hle
  cases hcmp : compare a.1 b.1 with
  | lt => rfl
  | eq => exact absurd (Std.compare_eq_iff_eq.mp hcmp) hne
  | gt => rw [hcmp] at hle; cases hle

/-! ## Listings -/

/-- A name ends with one of the suffixes. -/
def EndsWith (suffixes : List String) (name : String) : Prop :=
  ∃ suffix ∈ suffixes, suffix.toList <:+ name.toList

theorem hasSuffix_iff {suffixes : List String} {name : String} :
    hasSuffix suffixes name = true ↔ EndsWith suffixes name := by
  simp only [hasSuffix, EndsWith, List.any_eq_true, List.isPrefixOf_iff_prefix,
    List.reverse_prefix]

/-- A list of exactly the files of a tree that are below a path, at any depth, and whose names end
with one of the suffixes. -/
structure IsListing (suffixes : List String) (base : Path) (t : Tree)
    (listed : List (Path × ByteArray)) : Prop where
  mem_iff : ∀ path content, (path, content) ∈ listed ↔
    ∃ above name, path = base ++ (above ++ [name]) ∧ EndsWith suffixes name ∧
      t.find? path = some (.file content)
  /-- Name by name, so that what is in a directory comes before a file whose name goes on where the
  directory's name ends. -/
  ascending : listed.Pairwise fun a b => a.1.Before b.1

/-- The files below a path are the same in two trees. -/
def SameBelow (base : Path) (t u : Tree) : Prop :=
  ∀ above name content, t.find? (base ++ (above ++ [name])) = some (.file content) ↔
    u.find? (base ++ (above ++ [name])) = some (.file content)

/-- Trees with the same files have one list at most. -/
theorem IsListing.eq {suffixes : List String} {base : Path} {t u : Tree}
    {listed listed' : List (Path × ByteArray)} (h : IsListing suffixes base t listed)
    (h' : IsListing suffixes base u listed') (hfiles : SameBelow base t u) : listed = listed' := by
  have hnodup : ∀ {l : List (Path × ByteArray)}, (l.Pairwise fun a b => a.1.Before b.1) →
      l.Nodup := fun hl => hl.imp fun hab heq => (heq ▸ hab).asymm (heq ▸ hab)
  have hperm : listed.Perm listed' := by
    refine (List.perm_ext_iff_of_nodup (hnodup h.ascending) (hnodup h'.ascending)).mpr ?_
    rintro ⟨path, content⟩
    rw [h.mem_iff, h'.mem_iff]
    refine exists_congr fun above => exists_congr fun name => and_congr_right ?_
    rintro rfl
    rw [hfiles]
  exact hperm.eq_of_pairwise (fun a b _ _ hab hba => absurd hba hab.asymm) h.ascending h'.ascending

/-- What is listed below a directory. -/
theorem isListing_filesWithSuffix (suffixes : List String) {base : Path} {t : Tree} (h : t.Proper)
    {entries : List (String × Tree)} (hdir : t.find? base = some (.dir entries)) :
    IsListing suffixes base t (filesWithSuffix suffixes base (.dir entries)) := by
  have hproper : (Tree.dir entries).Proper := h.find? hdir
  have hbelow : ∀ rel, t.find? (base ++ rel) = (Tree.dir entries).find? rel := by
    intro rel
    rw [find?_append, hdir]
    rfl
  have hlast : ∀ above name, (base ++ (above ++ [name])).getLast?.any (hasSuffix suffixes) = true ↔
      EndsWith suffixes name := by
    intro above name
    rw [← List.append_assoc, List.getLast?_concat, Option.any_some, hasSuffix_iff]
  constructor
  case mem_iff =>
    intro path content
    rw [filesWithSuffix, List.mem_mergeSort, List.mem_filter, List.mem_map]
    constructor
    · rintro ⟨⟨⟨rel, c⟩, hmem, heq⟩, hsuffix⟩
      cases heq
      have hfind := (mem_files_iff hproper rel content).mp hmem
      -- the directory itself is no file
      rcases List.eq_nil_or_concat' rel with rfl | ⟨above, name, rfl⟩
      · cases hfind
      · exact ⟨above, name, rfl, (hlast above name).mp hsuffix, (hbelow _).trans hfind⟩
    · rintro ⟨above, name, rfl, hsuffix, hfind⟩
      rw [hbelow] at hfind
      have hmem := (mem_files_iff hproper _ content).mpr hfind
      exact ⟨⟨(above ++ [name], content), hmem, rfl⟩, (hlast above name).mpr hsuffix⟩
  case ascending =>
    have hpaths : ((Tree.dir entries).files.map fun f => (base ++ f.1, f.2)).map (·.1) =
        ((Tree.dir entries).files.map (·.1)).map (base ++ ·) := by
      rw [List.map_map, List.map_map]
      rfl
    refine pairwise_mergeSort_of_nodup (·.1) pathLe_trans pathLe_total before_of_pathLe
      (List.Nodup.sublist (List.filter_sublist.map _) ?_)
    rw [hpaths]
    exact (nodup_files hproper).map fun a b heq => List.append_cancel_left heq

/-- There is nothing to list below what is no directory. -/
theorem isListing_nil (suffixes : List String) {base : Path} {t : Tree}
    (h : ∀ entries, t.find? base ≠ some (.dir entries)) : IsListing suffixes base t [] := by
  refine ⟨fun path content => ?_, .nil⟩
  simp only [List.not_mem_nil, false_iff]
  rintro ⟨above, name, rfl, -, hfind⟩
  rw [find?_append] at hfind
  obtain ⟨u, hu, hrest⟩ := Option.bind_eq_some_iff.mp hfind
  cases u with
  | dir entries => exact h entries hu
  | file c => cases above <;> cases hrest

end Tree

end GpuFleet.Manifest
