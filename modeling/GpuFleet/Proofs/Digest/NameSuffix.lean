import GpuFleet.Proofs.Digest.Fnv

/-!
The name-safe form of a digest. The letter of a character hangs on its code modulo the size of the
alphabet, so that letters do not tell all characters apart, but those whose codes lie close
together, as the codes of decimal digits do. So suffixes are equal for equal digests and for no
others. They are short, and nothing stands in them that may not end a name.
-/
namespace GpuFleet.Digest

variable {c d : Char} {cs ds : List Char} {s t name text : String}

/-! ## Letters -/

theorem nodup_safeAlphabet : safeAlphabet.Nodup := by decide

theorem mod_safeAlphabet_lt (n : Nat) : n % safeAlphabet.length < safeAlphabet.length :=
  Nat.mod_lt n (by decide)

theorem getElem?_safeAlphabet (c : Char) :
    safeAlphabet[c.toNat % safeAlphabet.length]? = some (safeChar c) := by
  rw [safeChar, List.getD_eq_getElem?_getD, List.getElem?_eq_getElem (mod_safeAlphabet_lt _),
    Option.getD_some]

theorem safeChar_mem (c : Char) : safeChar c ∈ safeAlphabet :=
  List.mem_of_getElem? (getElem?_safeAlphabet c)

/-- Characters share a letter exactly if their codes agree modulo the size of the alphabet. -/
theorem safeChar_eq_iff : safeChar c = safeChar d ↔
    c.toNat % safeAlphabet.length = d.toNat % safeAlphabet.length := by
  rw [← List.getElem?_inj (mod_safeAlphabet_lt _) nodup_safeAlphabet, getElem?_safeAlphabet,
    getElem?_safeAlphabet, Option.some.injEq]

example : safeChar '0' = safeChar 'K' := by decide

/-- Letters tell decimal digits apart. -/
theorem eq_of_safeChar_eq (hc : c.isDigit = true) (hd : d.isDigit = true)
    (h : safeChar c = safeChar d) : c = d := by
  simp only [Char.isDigit, Bool.and_eq_true, decide_eq_true_eq] at hc hd
  have hcode : 48 ≤ c.toNat ∧ c.toNat ≤ 57 := hc
  have hcode' : 48 ≤ d.toNat ∧ d.toNat ≤ 57 := hd
  have hlength : safeAlphabet.length = 27 := by decide
  rw [safeChar_eq_iff, hlength] at h
  -- ten codes in a row, and 27 letters
  have hnat : c.toNat = d.toNat := by omega
  exact Char.toNat_inj.mp hnat

/-- Letters lose nothing of a text of digits. -/
theorem eq_of_map_safeChar_eq (hcs : ∀ c ∈ cs, c.isDigit = true) (hds : ∀ d ∈ ds, d.isDigit = true)
    (h : cs.map safeChar = ds.map safeChar) : cs = ds := by
  induction cs generalizing ds with
  | nil => exact (List.map_eq_nil_iff.mp h.symm).symm
  | cons c cs ih =>
    cases ds with
    | nil => cases h
    | cons d ds =>
      rw [List.forall_mem_cons] at hcs hds
      rw [List.map_cons, List.map_cons, List.cons.injEq] at h
      rw [eq_of_safeChar_eq hcs.1 hds.1 h.1, ih hcs.2 hds.2 h.2]

/-! ## Suffixes -/

theorem toList_nameSuffix (s : String) :
    (nameSuffix s).toList = (Nat.toDigits 10 (ofText s).toNat).map safeChar := by
  rw [nameSuffix, decimal, String.toList_ofList, String.toList_ofList]

theorem isDigit_of_mem_decimal {n : UInt32} : ∀ c ∈ (decimal n).toList, c.isDigit = true := by
  intro c hc
  rw [decimal, String.toList_ofList] at hc
  exact Nat.isDigit_of_mem_toDigits (by decide) (by decide) hc

theorem nameSuffix_eq_iff : nameSuffix s = nameSuffix t ↔ ofText s = ofText t := by
  constructor
  · intro h
    have hletters := String.ofList_inj.mp h
    have hdigits := eq_of_map_safeChar_eq isDigit_of_mem_decimal isDigit_of_mem_decimal hletters
    exact decimal_inj (String.toList_inj.mp hdigits)
  · intro h
    rw [nameSuffix, h, nameSuffix]

theorem length_nameSuffix (s : String) :
    (nameSuffix s).length = (Nat.toDigits 10 (ofText s).toNat).length := by
  rw [← String.length_toList, toList_nameSuffix, List.length_map]

theorem length_nameSuffix_pos (s : String) : 0 < (nameSuffix s).length := by
  rw [length_nameSuffix]
  exact Nat.length_toDigits_pos

theorem length_nameSuffix_le (s : String) : (nameSuffix s).length ≤ 10 := by
  rw [length_nameSuffix, Nat.length_toDigits_le_iff (by decide) (by decide)]
  have hlt : (ofText s).toNat < UInt32.size := UInt32.toNat_lt_size _
  exact Nat.lt_of_lt_of_le hlt (by decide)

theorem mem_safeAlphabet_of_mem (s : String) : ∀ c ∈ (nameSuffix s).toList, c ∈ safeAlphabet := by
  rw [toList_nameSuffix, List.forall_mem_map]
  exact fun c _ => safeChar_mem c

/-! ## Names -/

/-- Which texts are names: of what length, of what characters, and which of these may only stand in
the middle. -/
structure NameRule where
  limit : Nat
  isEnd : Char → Bool
  marks : List Char

namespace NameRule

/-- The names of objects, by the strictest rule for them: that of DNS labels. -/
def object : NameRule := ⟨63, fun c => c.isLower || c.isDigit, ['-']⟩

/-- The values of labels. -/
def labelValue : NameRule := ⟨63, Char.isAlphanum, ['-', '_', '.']⟩

structure Admits (rule : NameRule) (text : String) : Prop where
  short : text.length ≤ rule.limit
  chars : text.toList.all (fun c => rule.isEnd c || rule.marks.contains c) = true
  first : text.toList.head?.any rule.isEnd = true
  last : text.toList.getLast?.any rule.isEnd = true

instance (rule : NameRule) : DecidablePred rule.Admits := fun text =>
  decidable_of_iff
    (text.length ≤ rule.limit ∧
      text.toList.all (fun c => rule.isEnd c || rule.marks.contains c) = true ∧
      text.toList.head?.any rule.isEnd = true ∧ text.toList.getLast?.any rule.isEnd = true)
    ⟨fun h => ⟨h.1, h.2.1, h.2.2.1, h.2.2.2⟩, fun h => ⟨h.short, h.chars, h.first, h.last⟩⟩

variable {rule : NameRule}

theorem admits_of_ends (hne : text.toList ≠ []) (hshort : text.length ≤ rule.limit)
    (hends : ∀ c ∈ text.toList, rule.isEnd c = true) : rule.Admits text := by
  refine ⟨hshort, List.all_eq_true.mpr fun c hc => ?_, ?_, ?_⟩
  · rw [hends c hc, Bool.true_or]
  · rw [List.head?_eq_some_head hne, Option.any_some]
    exact hends _ (List.head_mem hne)
  · rw [List.getLast?_eq_some_getLast hne, Option.any_some]
    exact hends _ (List.getLast_mem hne)

/-- Names with a hyphen between them make a name, if it is not too long. -/
theorem Admits.hyphen (hname : rule.Admits name) (htext : rule.Admits text)
    (hmark : rule.marks.contains '-' = true)
    (hshort : name.length + 1 + text.length ≤ rule.limit) :
    rule.Admits (name ++ "-" ++ text) := by
  have hlist : (name ++ "-" ++ text).toList = name.toList ++ '-' :: text.toList := by
    rw [String.toList_append, String.toList_append, List.append_assoc]
    rfl
  constructor
  · rw [String.length_append, String.length_append]
    exact hshort
  · rw [hlist, List.all_append, List.all_cons, hname.chars, htext.chars, hmark, Bool.or_true]
    rfl
  · have hfirst := hname.first
    rw [hlist, List.head?_append]
    cases hhead : name.toList.head? with
    | none => simp [hhead] at hfirst
    | some c => simpa [hhead] using hfirst
  · have hlast := htext.last
    rw [hlist, List.getLast?_append]
    cases hlast' : text.toList.getLast? with
    | none => simp [hlast'] at hlast
    | some c => simpa [List.getLast?_cons, hlast'] using hlast

/-- A rule by which names may end in every letter of the alphabet lets suffixes be names and end
them. -/
theorem admits_nameSuffix (s : String) (hlimit : 63 ≤ rule.limit)
    (hends : safeAlphabet.all rule.isEnd = true) (hmark : rule.marks.contains '-' = true) :
    rule.Admits (nameSuffix s) ∧
      ∀ name, rule.Admits name → name.length ≤ 52 → rule.Admits (name ++ "-" ++ nameSuffix s) := by
  have hne : (nameSuffix s).toList ≠ [] := by
    rw [toList_nameSuffix]
    exact fun h => Nat.toDigits_ne_nil (List.map_eq_nil_iff.mp h)
  have hlength := length_nameSuffix_le s
  have hsuffix : rule.Admits (nameSuffix s) := admits_of_ends hne (by omega)
    fun c hc => List.all_eq_true.mp hends c (mem_safeAlphabet_of_mem s c hc)
  exact ⟨hsuffix, fun name hname hroom => hname.hyphen hsuffix hmark (by omega)⟩

end NameRule

/-- Suffixes are equal exactly for texts of one digest. Each has one to ten characters, all of the
alphabet, so that it may name objects and be the value of labels, and end every name and every value
that leaves room for it. -/
theorem name_suffix_keeps_digest (s t : String) :
    (nameSuffix s = nameSuffix t ↔ ofText s = ofText t) ∧
      1 ≤ (nameSuffix s).length ∧ (nameSuffix s).length ≤ 10 ∧
      (∀ c ∈ (nameSuffix s).toList, c ∈ safeAlphabet) ∧
      ∀ rule ∈ [NameRule.object, NameRule.labelValue],
        rule.Admits (nameSuffix s) ∧
          ∀ name, rule.Admits name → name.length ≤ 52 →
            rule.Admits (name ++ "-" ++ nameSuffix s) := by
  refine ⟨nameSuffix_eq_iff, length_nameSuffix_pos s, length_nameSuffix_le s,
    mem_safeAlphabet_of_mem s, ?_⟩
  rw [List.forall_mem_cons, List.forall_mem_singleton]
  constructor
  · exact NameRule.admits_nameSuffix s (by decide) (by decide) (by decide)
  · exact NameRule.admits_nameSuffix s (by decide) (by decide) (by decide)

theorem name_suffix_keeps_digest_driver :
    NameRule.object.Admits "nvidia-gpu-driver" ∧ "nvidia-gpu-driver".length ≤ 52 ∧
      NameRule.object.Admits
        ("nvidia-gpu-driver" ++ "-" ++ nameSuffix "rhcos4.14-414.92.202309282257") ∧
      nameSuffix "rhcos4.14-414.92.202309282257" ≠ nameSuffix "rhcos4.14" := by
  have hname : NameRule.object.Admits "nvidia-gpu-driver" := by decide
  have hroom : "nvidia-gpu-driver".length ≤ 52 := by decide
  have hdigests : ofText "rhcos4.14-414.92.202309282257" ≠ ofText "rhcos4.14" := by decide +kernel
  obtain ⟨heq, -, -, -, hrules⟩ :=
    name_suffix_keeps_digest "rhcos4.14-414.92.202309282257" "rhcos4.14"
  obtain ⟨-, hends⟩ := hrules .object List.mem_cons_self
  exact ⟨hname, hroom, hends _ hname hroom, fun h => hdigests (heq.mp h)⟩

end GpuFleet.Digest
