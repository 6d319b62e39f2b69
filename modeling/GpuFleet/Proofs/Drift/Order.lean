import GpuFleet.Drift.Extract

/-!
The order of entries. Sorting by a key keeps every entry and keeps the entries of one key in the
order in which they came. So two lists are sorted into one exactly if, for each key, they have the
same entries in the same order; where the key is the whole entry, exactly if one list is a
permutation of the other.
-/
namespace GpuFleet.Drift

/-! ## Sorting by a key -/

section Key

variable {α κ : Type} {key : α → κ} {le : α → α → Bool} {r : κ → κ → Prop}

/-- A list in the order of keys: the same items, ascending, and those of one key in the order in
which they came. -/
structure OrderedBy [DecidableEq κ] (key : α → κ) (r : κ → κ → Prop) (input output : List α) :
    Prop where
  perm : output.Perm input
  ascending : output.Pairwise fun a b => r (key a) (key b)
  stable : ∀ k, output.filter (key · = k) = input.filter (key · = k)

/-- The test compares keys, in a linear order. -/
structure ComparesKeys (le : α → α → Bool) (key : α → κ) (r : κ → κ → Prop) : Prop where
  iff : ∀ a b, le a b = true ↔ r (key a) (key b)
  trans : ∀ {i j k}, r i j → r j k → r i k
  total : ∀ i j, r i j ∨ r j i
  antisymm : ∀ {i j}, r i j → r j i → i = j

theorem ComparesKeys.refl (h : ComparesKeys le key r) (i : κ) : r i i := (h.total i i).elim id id

variable [DecidableEq κ]

theorem ComparesKeys.orderedBy (h : ComparesKeys le key r) (as : List α) :
    OrderedBy key r as (as.mergeSort le) := by
  have htrans : ∀ a b c, le a b = true → le b c = true → le a c = true := by
    intro a b c hab hbc
    exact (h.iff a c).mpr (h.trans ((h.iff a b).mp hab) ((h.iff b c).mp hbc))
  have htotal : ∀ a b, (le a b || le b a) = true := by
    intro a b
    rw [Bool.or_eq_true, h.iff, h.iff]
    exact h.total (key a) (key b)
  have hperm := List.mergeSort_perm as le
  refine ⟨hperm, (List.pairwise_mergeSort htrans htotal as).imp (h.iff _ _).mp, fun k => ?_⟩
  -- the items of one key are in ascending order already, so that sorting keeps them as a sublist
  have hties : (as.filter (key · = k)).Pairwise fun a b => le a b = true := by
    refine List.pairwise_of_forall_mem_list fun a ha b hb => (h.iff a b).mpr ?_
    rw [of_decide_eq_true (List.mem_filter.mp ha).2, of_decide_eq_true (List.mem_filter.mp hb).2]
    exact h.refl k
  have hsub := (List.sublist_mergeSort htrans htotal hties List.filter_sublist).filter (key · = k)
  simp only [List.filter_filter, Bool.and_self] at hsub
  exact (hsub.eq_of_length (hperm.filter _).length_eq.symm).symm

/-- In ascending lists with the same items of each key, the first items have one key. -/
private theorem key_head_eq (h : ComparesKeys le key r) {a b : α} {as bs : List α}
    (ha : (a :: as).Pairwise fun a b => r (key a) (key b))
    (hb : (b :: bs).Pairwise fun a b => r (key a) (key b))
    (hitems : ∀ k, (a :: as).filter (key · = k) = (b :: bs).filter (key · = k)) :
    key a = key b := by
  have hle : ∀ {c d : α} {cs ds : List α}, (c :: cs).Pairwise (fun a b => r (key a) (key b)) →
      (c :: cs).filter (key · = key d) = (d :: ds).filter (key · = key d) →
      r (key c) (key d) := by
    intro c d cs ds hc hfilter
    have hd : d ∈ (c :: cs).filter (key · = key d) := by
      rw [hfilter, List.mem_filter]
      exact ⟨List.mem_cons_self, decide_eq_true rfl⟩
    rcases List.mem_cons.mp (List.mem_filter.mp hd).1 with rfl | hmem
    · exact h.refl _
    · exact List.rel_of_pairwise_cons hc hmem
  exact h.antisymm (hle ha (hitems (key b))) (hle hb (hitems (key a)).symm)

/-- An ascending list is known by its items of each key. -/
theorem ComparesKeys.eq_of_ascending (h : ComparesKeys le key r) {as bs : List α}
    (ha : as.Pairwise fun a b => r (key a) (key b))
    (hb : bs.Pairwise fun a b => r (key a) (key b))
    (hitems : ∀ k, as.filter (key · = k) = bs.filter (key · = k)) : as = bs := by
  induction as generalizing bs with
  | nil =>
    cases bs with
    | nil => rfl
    | cons b bs => simpa using hitems (key b)
  | cons a as ih =>
    cases bs with
    | nil => simpa using hitems (key a)
    | cons b bs =>
      have hkey := key_head_eq h ha hb hitems
      have hhead := hitems (key a)
      rw [List.filter_cons_of_pos (by simp), List.filter_cons_of_pos (by simp [hkey])] at hhead
      obtain rfl := (List.cons.inj hhead).1
      rw [ih ha.of_cons hb.of_cons fun k => ?_]
      have hk := hitems k
      by_cases hak : key a = k
      · rw [List.filter_cons_of_pos (by simp [hak]), List.filter_cons_of_pos (by simp [hak])] at hk
        exact (List.cons.inj hk).2
      · rwa [List.filter_cons_of_neg (by simp [hak]), List.filter_cons_of_neg (by simp [hak])] at hk

/-- Lists are sorted into one exactly if they have the same items of each key in the same order. -/
theorem ComparesKeys.mergeSort_eq_iff (h : ComparesKeys le key r) (as bs : List α) :
    as.mergeSort le = bs.mergeSort le ↔ ∀ k, as.filter (key · = k) = bs.filter (key · = k) := by
  have has := h.orderedBy as
  have hbs := h.orderedBy bs
  constructor
  · intro heq k
    rw [← has.stable k, heq, hbs.stable k]
  · intro hitems
    refine h.eq_of_ascending has.ascending hbs.ascending fun k => ?_
    rw [has.stable k, hitems k, hbs.stable k]

/-- Where the key is the whole item, exactly permutations are sorted into one list. -/
theorem ComparesKeys.mergeSort_eq_iff_perm (h : ComparesKeys le key r)
    (hkey : ∀ {a b}, key a = key b ↔ a = b) (as bs : List α) :
    as.mergeSort le = bs.mergeSort le ↔ as.Perm bs := by
  have has := h.orderedBy as
  have hbs := h.orderedBy bs
  constructor
  · intro heq
    exact has.perm.symm.trans (heq ▸ hbs.perm)
  · intro hperm
    refine List.Perm.eq_of_pairwise (fun a b _ _ hab hba => hkey.mp (h.antisymm hab hba))
      has.ascending hbs.ascending ?_
    exact has.perm.trans (hperm.trans hbs.perm.symm)

/-- Where no key is there twice, the order of the items does not count. -/
theorem filter_eq_of_perm {as bs : List α} (hperm : as.Perm bs) (hkeys : (as.map key).Nodup)
    (k : κ) : as.filter (key · = k) = bs.filter (key · = k) := by
  have hitems : (as.filter (key · = k)).Perm (bs.filter (key · = k)) := hperm.filter _
  have hcount : (as.filter (key · = k)).length ≤ 1 := by
    have hkey := List.nodup_iff_count.mp hkeys k
    rw [List.count, List.countP_map, List.countP_eq_length_filter] at hkey
    exact hkey
  cases has : as.filter (key · = k) with
  | nil => exact (List.nil_perm.mp (has ▸ hitems)).symm
  | cons a rest =>
    rw [has, List.length_cons] at hcount
    obtain rfl : rest = [] := List.eq_nil_of_length_eq_zero (by omega)
    rw [has] at hitems
    exact hitems.singleton_eq

end Key

/-! ## The keys of entries -/

/-- Pairs of strings in lexicographic order. -/
def LexOrder (a b : String × String) : Prop := a.1 < b.1 ∨ a.1 = b.1 ∧ a.2 ≤ b.2

theorem lexLe_iff (a b : String × String) : lexLe a b = true ↔ LexOrder a b := by
  simp [lexLe, LexOrder]

def EnvEntry.key (e : EnvEntry) : String × String := (e.name, e.value)

theorem EnvEntry.key_inj {a b : EnvEntry} : a.key = b.key ↔ a = b := by
  rw [EnvEntry.key, EnvEntry.key, Prod.mk.injEq, ← EnvEntry.mk.injEq]

def MountEntry.key (m : MountEntry) : String × String := (m.name, m.mountPath)

private theorem LexOrder.trans {a b c : String × String} (hab : LexOrder a b)
    (hbc : LexOrder b c) : LexOrder a c := by
  rcases hab with hlt | ⟨heq, hle⟩
  · rcases hbc with hlt' | ⟨heq', -⟩
    · exact .inl (String.lt_trans hlt hlt')
    · exact .inl (heq' ▸ hlt)
  · rcases hbc with hlt' | ⟨heq', hle'⟩
    · exact .inl (heq ▸ hlt')
    · exact .inr ⟨heq.trans heq', String.le_trans hle hle'⟩

private theorem LexOrder.total (a b : String × String) : LexOrder a b ∨ LexOrder b a := by
  by_cases hlt : a.1 < b.1
  · exact .inl (.inl hlt)
  · by_cases hgt : b.1 < a.1
    · exact .inr (.inl hgt)
    · have heq : a.1 = b.1 := String.le_antisymm (String.not_lt.mp hgt) (String.not_lt.mp hlt)
      exact (String.le_total a.2 b.2).imp (.inr ⟨heq, ·⟩) (.inr ⟨heq.symm, ·⟩)

private theorem LexOrder.antisymm {a b : String × String} (hab : LexOrder a b)
    (hba : LexOrder b a) : a = b := by
  rcases hab with hlt | ⟨heq, hle⟩
  · rcases hba with hgt | ⟨heq, -⟩
    · exact absurd (String.lt_trans hlt hgt) (String.lt_irrefl _)
    · exact absurd (heq ▸ hlt) (String.lt_irrefl _)
  · rcases hba with hgt | ⟨-, hle'⟩
    · exact absurd (heq ▸ hgt) (String.lt_irrefl _)
    · exact Prod.ext heq (String.le_antisymm hle hle')

theorem EnvEntry.comparesKeys : ComparesKeys EnvEntry.le EnvEntry.key LexOrder :=
  ⟨fun _ _ => lexLe_iff _ _, LexOrder.trans, LexOrder.total, LexOrder.antisymm⟩

theorem MountEntry.comparesKeys : ComparesKeys MountEntry.le MountEntry.key LexOrder :=
  ⟨fun _ _ => lexLe_iff _ _, LexOrder.trans, LexOrder.total, LexOrder.antisymm⟩

theorem VolumeEntry.comparesKeys : ComparesKeys VolumeEntry.le VolumeEntry.name (· ≤ ·) :=
  ⟨fun _ _ => decide_eq_true_iff, String.le_trans, String.le_total, String.le_antisymm⟩

/-! ## Entries of unsorted lists -/

/-- The entries of the variables with a value of their own; an unset value is empty. -/
def directEntries (env : List Kube.EnvVar) : List EnvEntry :=
  (env.filter (·.valueFrom.isNone)).map fun e => ⟨e.name, e.value.getD ""⟩

/-- Entries taken from a list that may be absent: none exactly if there is nothing to take, and
otherwise in the order of their keys, which is all that is lost of the order in the list. -/
structure NormalisesOrder {α β κ : Type} [DecidableEq κ]
    (extract : Option (List β) → Option (List α)) (project : List β → List α) (key : α → κ)
    (r : κ → κ → Prop) : Prop where
  eq_none_iff : ∀ list, extract list = none ↔ project (list.getD []) = []
  ordered : ∀ list es, extract list = some es → OrderedBy key r (project (list.getD [])) es
  eq_iff : ∀ list list', extract list = extract list' ↔
    ∀ k, (project (list.getD [])).filter (key · = k) = (project (list'.getD [])).filter (key · = k)

section Extract

variable {α β κ : Type} [DecidableEq κ] {extract : Option (List β) → Option (List α)}
  {project : List β → List α} {key : α → κ} {le : α → α → Bool} {r : κ → κ → Prop}

/-- Sorting what there is normalises the order. -/
theorem ComparesKeys.normalisesOrder (h : ComparesKeys le key r)
    (hextract : ∀ list, extract list =
      if project (list.getD []) = [] then none
      else some ((project (list.getD [])).mergeSort le)) :
    NormalisesOrder extract project key r := by
  refine ⟨fun list => ?_, fun list es hes => ?_, fun list list' => ?_⟩
  · rw [hextract]
    split <;> simp_all
  · rw [hextract] at hes
    split at hes
    · cases hes
    · rw [← Option.some.inj hes]
      exact h.orderedBy _
  · have hsorted : ∀ as : List α, as.mergeSort le = [] ↔ as = [] := fun as => by
      rw [← List.length_eq_zero_iff, List.length_mergeSort, List.length_eq_zero_iff]
    rw [← h.mergeSort_eq_iff, hextract, hextract]
    split
    · next hnil =>
      rw [hnil, List.mergeSort_nil, eq_comm, eq_comm (a := []), hsorted]
      split <;> simp_all
    · next hne =>
      split
      · next hnil => simp [hnil, hsorted, hne]
      · rw [Option.some.injEq]

/-- Where no key is there twice, a list may be reordered. -/
theorem NormalisesOrder.eq_of_perm (h : NormalisesOrder extract project key r) {list list' : List β}
    (hperm : (project list).Perm (project list')) (hkeys : ((project list).map key).Nodup) :
    extract (some list) = extract (some list') :=
  (h.eq_iff _ _).mpr fun k => filter_eq_of_perm hperm hkeys k

end Extract

private theorem filterMap_ofVar? (env : List Kube.EnvVar) :
    env.filterMap EnvEntry.ofVar? = directEntries env := by
  induction env with
  | nil => rfl
  | cons e env ih =>
    cases he : e.valueFrom.isNone <;>
      simp [EnvEntry.ofVar?, directEntries, he, ih]

private theorem envEntries_eq (env : Option (List Kube.EnvVar)) :
    envEntries env =
      if directEntries (env.getD []) = [] then none
      else some (EnvEntry.sort (directEntries (env.getD []))) := by
  cases env with
  | none => rfl
  | some env =>
    simp only [envEntries, Option.bind_eq_bind, Option.bind_some, filterMap_ofVar?,
      Option.getD_some]
    cases directEntries env <;> rfl

theorem envEntries_normalises :
    NormalisesOrder envEntries directEntries EnvEntry.key LexOrder :=
  EnvEntry.comparesKeys.normalisesOrder envEntries_eq

theorem mountEntries_normalises :
    NormalisesOrder mountEntries (List.map MountEntry.ofMount) MountEntry.key LexOrder := by
  refine MountEntry.comparesKeys.normalisesOrder fun mounts => ?_
  rcases mounts with _ | (_ | ⟨m, mounts⟩) <;> rfl

theorem volumeEntries_normalises :
    NormalisesOrder volumeEntries (List.map VolumeEntry.ofVolume) VolumeEntry.name (· ≤ ·) := by
  refine VolumeEntry.comparesKeys.normalisesOrder fun volumes => ?_
  rcases volumes with _ | (_ | ⟨v, volumes⟩) <;> rfl

/-! ## What the lists say -/

private theorem sort_eq_iff (es es' : List EnvEntry) :
    EnvEntry.sort es = EnvEntry.sort es' ↔ es.Perm es' :=
  EnvEntry.comparesKeys.mergeSort_eq_iff_perm EnvEntry.key_inj es es'

theorem envEntries_eq_iff (env env' : Option (List Kube.EnvVar)) :
    envEntries env = envEntries env' ↔
      (directEntries (env.getD [])).Perm (directEntries (env'.getD [])) := by
  rw [envEntries_normalises.eq_iff, ← EnvEntry.comparesKeys.mergeSort_eq_iff]
  exact sort_eq_iff _ _

/-- The mounts of a volume at a path, in their order: the sub-path, which is empty where it is unset,
and whether the volume is mounted for reading only, which it is not where nothing is said. -/
def mountsAt (mounts : Option (List Kube.VolumeMount)) (name path : String) :
    List (String × Bool) :=
  ((mounts.getD []).filter fun m => m.name = name ∧ m.mountPath = path).map fun m =>
    (m.subPath.getD "", m.readOnly.getD false)

private theorem filter_ofMount (mounts : List Kube.VolumeMount) (name path : String) :
    (mounts.map MountEntry.ofMount).filter (MountEntry.key · = (name, path)) =
      (mountsAt mounts name path).map fun m => ⟨name, path, m.1, m.2⟩ := by
  have hkey : (fun m => decide (MountEntry.key m = (name, path))) ∘ MountEntry.ofMount =
      fun m => decide (m.name = name ∧ m.mountPath = path) := by
    funext m
    exact decide_eq_decide.mpr (iff_of_eq (Prod.mk.injEq ..))
  rw [mountsAt, Option.getD_some, List.filter_map, hkey, List.map_map]
  refine List.map_congr_left fun m hm => ?_
  obtain ⟨rfl, rfl⟩ := of_decide_eq_true (List.mem_filter.mp hm).2
  rfl

/-- Two lists of mounts give the same entries exactly if every volume is mounted alike at every
path. -/
theorem mountEntries_eq_iff (mounts mounts' : Option (List Kube.VolumeMount)) :
    mountEntries mounts = mountEntries mounts' ↔
      ∀ name path, mountsAt mounts name path = mountsAt mounts' name path := by
  have hinj : ∀ name path, Function.Injective
      fun m : String × Bool => (⟨name, path, m.1, m.2⟩ : MountEntry) := by
    intro name path a b h
    rw [MountEntry.mk.injEq] at h
    exact Prod.ext h.2.2.1 h.2.2.2
  have hlist : ∀ list : Option (List Kube.VolumeMount),
      mountsAt list = mountsAt (some (list.getD [])) := fun list => rfl
  rw [mountEntries_normalises.eq_iff, Prod.forall, hlist mounts, hlist mounts']
  simp only [filter_ofMount, List.map_inj_right (hinj _ _)]

/-- The origin of a volume, as far as it is looked at. -/
structure Origin where
  hostPath : Option String
  configMap : Option String
  secret : Option String
deriving DecidableEq, Repr

/-- A ConfigMap counts only without a host path, and a Secret only without either. An empty name
says nothing, though it keeps the Secret out. -/
def origin (v : Kube.Volume) : Origin where
  hostPath := v.hostPath.map (·.path)
  configMap :=
    if v.hostPath = none then (v.configMap.map (·.name)).filter (· ≠ "") else none
  secret :=
    if v.hostPath = none ∧ v.configMap = none then
      (v.secret.bind (·.secretName)).filter (· ≠ "")
    else none

private theorem ofVolume_eq (v : Kube.Volume) : VolumeEntry.ofVolume v =
    ⟨v.name, (origin v).hostPath, (origin v).configMap, (origin v).secret⟩ := by
  have hname : ∀ s : String, VolumeEntry.nonEmpty s = (some s).filter (· ≠ "") := by
    intro s
    by_cases h : s = "" <;> simp [VolumeEntry.nonEmpty, Option.filter, h]
  obtain ⟨name, hostPath, configMap, secret, rest⟩ := v
  cases hostPath with
  | some h => simp [VolumeEntry.ofVolume, origin]
  | none =>
    cases configMap with
    | some c => simp [VolumeEntry.ofVolume, origin, hname]
    | none =>
      cases secret with
      | none => rfl
      | some s => cases hs : s.secretName <;> simp [VolumeEntry.ofVolume, origin, hname, hs]

/-- The origins of the volumes of a name, in their order. -/
def origins (volumes : Option (List Kube.Volume)) (name : String) : List Origin :=
  ((volumes.getD []).filter (·.name = name)).map origin

private theorem filter_ofVolume (volumes : List Kube.Volume) (name : String) :
    (volumes.map VolumeEntry.ofVolume).filter (VolumeEntry.name · = name) =
      (origins volumes name).map fun o => ⟨name, o.hostPath, o.configMap, o.secret⟩ := by
  have hkey : (fun v => decide (VolumeEntry.name v = name)) ∘ VolumeEntry.ofVolume =
      fun v => decide (v.name = name) := by
    funext v
    simp only [Function.comp_apply, ofVolume_eq]
  rw [origins, Option.getD_some, List.filter_map, hkey, List.map_map]
  refine List.map_congr_left fun v hv => ?_
  rw [ofVolume_eq, of_decide_eq_true (List.mem_filter.mp hv).2]
  rfl

/-- Two lists of volumes give the same entries exactly if every name has the same origins. -/
theorem volumeEntries_eq_iff (volumes volumes' : Option (List Kube.Volume)) :
    volumeEntries volumes = volumeEntries volumes' ↔
      ∀ name, origins volumes name = origins volumes' name := by
  have hinj : ∀ name, Function.Injective
      fun o : Origin => (⟨name, o.hostPath, o.configMap, o.secret⟩ : VolumeEntry) := by
    rintro name ⟨⟩ ⟨⟩ h
    rw [VolumeEntry.mk.injEq] at h
    rw [Origin.mk.injEq]
    exact h.2
  have hlist : ∀ list : Option (List Kube.Volume),
      origins list = origins (some (list.getD [])) := fun list => rfl
  rw [volumeEntries_normalises.eq_iff, hlist volumes, hlist volumes']
  simp only [filter_ofVolume, List.map_inj_right (hinj _)]

/-! ## What is lost of the order -/

/-- The three extractors normalise the order of their lists and nothing else. They give nothing
exactly if there is nothing to take, and otherwise the entries in ascending order, those of one key
in the order in which they came. Two environments give the same entries exactly if they have the
same literal variables equally often, and then as those variables sorted by themselves; mounts may
be reordered where no name and path are there twice, and volumes where no name is. -/
theorem entries_normalise_order :
    (NormalisesOrder envEntries directEntries EnvEntry.key LexOrder ∧
      (∀ env, envEntries env = none ↔ ∀ e ∈ env.getD [], e.valueFrom ≠ none) ∧
      (∀ env env', envEntries env = envEntries env' ↔
        (directEntries (env.getD [])).Perm (directEntries (env'.getD []))) ∧
      ∀ env es, es ≠ [] → es.Perm (directEntries (env.getD [])) →
        envEntries env = some (EnvEntry.sort es)) ∧
    (NormalisesOrder mountEntries (List.map MountEntry.ofMount) MountEntry.key LexOrder ∧
      ∀ mounts mounts', mounts.Perm mounts' → (mounts.map fun m => (m.name, m.mountPath)).Nodup →
        mountEntries (some mounts) = mountEntries (some mounts')) ∧
    (NormalisesOrder volumeEntries (List.map VolumeEntry.ofVolume) VolumeEntry.name (· ≤ ·) ∧
      ∀ volumes volumes', volumes.Perm volumes' → (volumes.map (·.name)).Nodup →
        volumeEntries (some volumes) = volumeEntries (some volumes')) := by
  refine ⟨⟨envEntries_normalises, fun env => ?_, fun env env' => ?_, fun env es hne hperm => ?_⟩,
    ⟨mountEntries_normalises, fun mounts mounts' hperm hkeys => ?_⟩,
    ⟨volumeEntries_normalises, fun volumes volumes' hperm hnames => ?_⟩⟩
  · rw [envEntries_normalises.eq_none_iff, directEntries, List.map_eq_nil_iff,
      List.filter_eq_nil_iff]
    simp
  · exact envEntries_eq_iff env env'
  · have hdirect : directEntries (env.getD []) ≠ [] := fun hnil => hne (by simpa [hnil] using hperm)
    rw [envEntries_eq, if_neg hdirect]
    exact congrArg some ((sort_eq_iff _ _).mpr hperm.symm)
  · refine mountEntries_normalises.eq_of_perm (hperm.map _) ?_
    rw [List.map_map]
    exact hkeys
  · refine volumeEntries_normalises.eq_of_perm (hperm.map _) ?_
    have hname : VolumeEntry.name ∘ VolumeEntry.ofVolume = (·.name) := by
      funext v
      exact congrArg VolumeEntry.name (ofVolume_eq v)
    rw [List.map_map, hname]
    exact hnames

/-- Mounts of one name and path stay in their order. -/
example :
    mountEntries (some [⟨"data", "/x", some "b", none, []⟩, ⟨"cache", "/y", none, none, []⟩,
        ⟨"data", "/x", some "a", none, []⟩]) =
      some [⟨"cache", "/y", "", false⟩, ⟨"data", "/x", "b", false⟩,
        ⟨"data", "/x", "a", false⟩] := by
  cbv

end GpuFleet.Drift
