import GpuFleet.Proofs.Digest.Sparse
import GpuFleet.Proofs.Json.Same

/-!
What a digest may fail to tell apart. Two values of one full digest are the same, unless two texts
have one digest. The sparse digest has collisions of its own, already in the text: an object of two
members that are not zero has the text of an object of one, whose name has the first member in it.
The objects differ in their names then, and some name has a colon in it or goes on with a number.
-/
namespace GpuFleet.Digest

/-- Canonical texts are equal for values that are the same and for no others, so that only two texts
of one digest give two values one full digest. -/
theorem full_digest_identifies (v w : Json) :
    (v.canonical = w.canonical ↔ Json.Same v w) ∧
      (full v = full w ↔
        Json.Same v w ∨
          v.canonical ≠ w.canonical ∧ ofText v.canonical = ofText w.canonical) := by
  have htext := Json.canonical_eq_iff v w
  refine ⟨htext, ?_⟩
  rw [← htext]
  constructor
  · intro h
    by_cases heq : v.canonical = w.canonical
    · exact .inl heq
    · exact .inr ⟨heq, decimal_inj h⟩
  · rintro (heq | ⟨-, hdigest⟩)
    · rw [full, full, heq]
    · rw [full, full, hdigest]

/-- The same members that are not zero: the same names, and the same values under them. -/
def SameNonzero (ms ns : Members) : Prop :=
  ∀ key, Option.Rel Json.Same (nonzero? ms key) (nonzero? ns key)

theorem sameNonzero_iff {ms ns : Members} :
    SameNonzero ms ns ↔
      ∀ key, (nonzero? ms key).map Json.canonical = (nonzero? ns key).map Json.canonical :=
  forall_congr' fun _ => Json.map_canonical_eq_iff.symm

private theorem SameNonzero.isSome_eq {ms ns : Members} (h : SameNonzero ms ns) (key : String) :
    (nonzero? ms key).isSome = (nonzero? ns key).isSome := by
  have hkey := congrArg Option.isSome (sameNonzero_iff.mp h key)
  rwa [Option.isSome_map, Option.isSome_map] at hkey

/-- Where two objects have one text and differ in what is not zero, a name that is not plain stands
in one of them, and a name of one is missing from the other. -/
private theorem names_of_sparseText_eq {ms ns : Members} (h : sparseText ms = sparseText ns)
    (hne : ¬ SameNonzero ms ns) :
    (∃ key, (nonzero? ms key).isSome ≠ (nonzero? ns key).isSome) ∧
      ∃ key, ((nonzero? ms key).isSome = true ∨ (nonzero? ns key).isSome = true) ∧
        isPlainName key = false := by
  constructor
  · by_contra hnames
    rw [not_exists_not] at hnames
    exact hne (sameNonzero_iff.mpr (nonzero?_eq_of_names hnames h))
  · by_contra hplain
    simp only [not_exists, not_and, Bool.not_eq_false] at hplain
    exact hne (sameNonzero_iff.mpr (nonzero?_eq_of_plain (fun key hkey => hplain key (.inl hkey))
      (fun key hkey => hplain key (.inr hkey)) h))

/-- An object of one member that is not zero differs from one of two. -/
private theorem not_sameNonzero_single {ms : Members} {name a b : String} {v : Json} (hab : a ≠ b)
    (ha : (nonzero? ms a).isSome = true) (hb : (nonzero? ms b).isSome = true) :
    ¬ SameNonzero [(name, v)] ms := by
  intro h
  have hname : ∀ key, (nonzero? ms key).isSome = true → key = name := by
    intro key hkey
    rw [← h.isSome_eq key] at hkey
    by_contra hne
    simp [nonzero?, List.lookup_cons, beq_false_of_ne hne] at hkey
  exact hab ((hname a ha).trans (hname b hb).symm)

/-- Objects with the same members that are not zero have one sparse text; zero members never
count, and one more that is not zero always shows. Conversely objects of one text have the same
members that are not zero, unless a name of one is missing from the other and some name is not
plain; and this does happen, to every object with two members that are not zero. -/
theorem sparse_text_collides_through_names (ms ns : Members) :
    (SameNonzero ms ns → sparseText ms = sparseText ns) ∧
      ((∀ key, ms.lookup key = ns.lookup key ∨ nonzero? ms key = none ∧ nonzero? ns key = none) →
        sparse (.object ms) = sparse (.object ns)) ∧
      (∀ key v, isZero v = false → nonzero? ms key = none →
        sparseText ((key, v) :: ms) ≠ sparseText ms) ∧
      (sparseText ms = sparseText ns →
        SameNonzero ms ns ∨
          (∃ key, (nonzero? ms key).isSome ≠ (nonzero? ns key).isSome) ∧
            ∃ key, ((nonzero? ms key).isSome = true ∨ (nonzero? ns key).isSome = true) ∧
              isPlainName key = false) ∧
      ∀ a b, a ≠ b → (nonzero? ms a).isSome = true → (nonzero? ms b).isSome = true →
        ∃ os, sparseText os = sparseText ms ∧ ¬ SameNonzero os ms := by
  refine ⟨fun h => sparseText_congr (sameNonzero_iff.mp h), ?_, fun key v hv hnone =>
    sparseText_cons_ne hnone hv, ?_, ?_⟩
  · intro h
    have hnonzero : ∀ key, nonzero? ms key = nonzero? ns key := by
      intro key
      rcases h key with hlookup | ⟨hms, hns⟩
      · rw [nonzero?, hlookup, nonzero?]
      · rw [hms, hns]
    have htext : sparseText ms = sparseText ns := sparseText_congr fun key => by rw [hnonzero key]
    rw [sparse, sparse, htext]
  · intro h
    by_cases hsame : SameNonzero ms ns
    · exact .inl hsame
    · exact .inr (names_of_sparseText_eq h hsame)
  · intro a b hab ha hb
    obtain ⟨name, v, -, htext⟩ := exists_single_sparseText_eq ha
    exact ⟨[(name, v)], htext, not_sameNonzero_single hab ha hb⟩

example :
    sparseText [("a", .int 1), ("b", .int 2)] = "a:1b:2" ∧
      sparseText [("a:1b", .int 2)] = "a:1b:2" := by decide +kernel

end GpuFleet.Digest
