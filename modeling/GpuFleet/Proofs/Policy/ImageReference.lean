import GpuFleet.Policy.Spec
import GpuFleet.Proofs.Text.Split
import Mathlib.Data.List.DropRight

/-!
The parts of an image reference: repository, image name and version. Repositories have slashes and
colons of their own, and digests have a colon; but where no name and no version has a slash, the
last one is that behind the repository, and where names have no colon and no at sign, the first of
these behind the last slash starts the version. So the parts are found again, up to slashes at the
end of a repository.
-/
namespace GpuFleet.Policy

/-! ## Repositories -/

/-- The text is the stem with slashes behind it, any number of them, and the stem ends in none. -/
structure IsStem (text stem : String) : Prop where
  slashes : ∃ n, text.toList = stem.toList ++ List.replicate n '/'
  last : stem.toList.getLast? ≠ some '/'

/-- A text has one stem. -/
theorem IsStem.unique {text stem other : String} (h : IsStem text stem) (h' : IsStem text other) :
    stem = other := by
  obtain ⟨⟨n, hn⟩, hlast⟩ := h
  obtain ⟨⟨m, hm⟩, hlast'⟩ := h'
  have hother {cs : List Char} (hcs : cs.getLast? ≠ some '/') : ∀ c ∈ cs.getLast?, ¬ c = '/' :=
    fun _ hc heq => hcs (heq ▸ hc)
  obtain ⟨heq, -⟩ := Text.split_at_last (fun _ => List.eq_of_mem_replicate)
    (fun _ => List.eq_of_mem_replicate) (hother hlast) (hother hlast') (hn.symm.trans hm)
  exact String.toList_inj.mp heq

/-- Both repositories are unset or empty, or both are given and the same but for slashes at their
ends. -/
inductive SameRepository : Option String → Option String → Prop
  | unset {r q : Option String} : r.getD "" = "" → q.getD "" = "" → SameRepository r q
  | given {r q stem : String} : r ≠ "" → q ≠ "" → IsStem r stem → IsStem q stem →
      SameRepository (some r) (some q)

namespace ComponentSpec

variable {r q v w : Option String}

theorem toList_dropTrailingSlashes (text : String) :
    (dropTrailingSlashes text).toList = text.toList.rdropWhile (· = '/') := by
  rw [dropTrailingSlashes, String.toList_ofList, List.rdropWhile]

theorem isStem_dropTrailingSlashes (text : String) : IsStem text (dropTrailingSlashes text) := by
  constructor
  · have hslashes : text.toList.rtakeWhile (· = '/') =
        List.replicate (text.toList.rtakeWhile (· = '/')).length '/' :=
      List.eq_replicate_iff.mpr ⟨rfl, fun c hc => by simpa using List.mem_rtakeWhile_imp hc⟩
    refine ⟨(text.toList.rtakeWhile (· = '/')).length, ?_⟩
    rw [← hslashes, toList_dropTrailingSlashes, List.rdropWhile_append_rtakeWhile]
  · intro hlast
    rw [toList_dropTrailingSlashes] at hlast
    obtain ⟨hne, hslash⟩ := List.mem_getLast?_eq_getLast hlast
    have hnot := List.rdropWhile_last_not _ _ hne
    rw [← hslash] at hnot
    exact hnot rfl

/-- What stands before the image. -/
def front (repository : Option String) : List Char :=
  match repository with
  | none => []
  | some r => if r = "" then [] else (dropTrailingSlashes r).toList ++ ['/']

theorem toList_located (repository : Option String) (image : String) :
    (located repository image).toList = front repository ++ image.toList := by
  cases repository with
  | none => rfl
  | some r => by_cases hr : r = "" <;> simp [located, front, hr, String.isEmpty_iff]

theorem front_unset (h : r.getD "" = "") : front r = [] := by
  cases r with
  | none => rfl
  | some r => exact if_pos h

theorem front_given {r : String} (h : r ≠ "") :
    front (some r) = (dropTrailingSlashes r).toList ++ ['/'] := if_neg h

theorem unset_or_given (r : Option String) :
    r.getD "" = "" ∨ ∃ text, r = some text ∧ text ≠ "" := by
  cases r with
  | none => exact .inl rfl
  | some text =>
    by_cases h : text = ""
    · exact .inl h
    · exact .inr ⟨text, rfl, h⟩

theorem eq_slash_of_last_front {c : Char} (h : c ∈ (front r).getLast?) : c = '/' := by
  rcases unset_or_given r with hr | ⟨text, rfl, hr⟩
  · rw [front_unset hr] at h
    cases h
  · rw [front_given hr, List.getLast?_concat] at h
    cases h
    rfl

theorem front_eq_iff : front r = front q ↔ SameRepository r q := by
  constructor
  · intro h
    rcases unset_or_given r with hr | ⟨r, rfl, hr⟩ <;>
      rcases unset_or_given q with hq | ⟨q, rfl, hq⟩
    · exact .unset hr hq
    · rw [front_unset hr, front_given hq] at h
      simp at h
    · rw [front_given hr, front_unset hq] at h
      simp at h
    · rw [front_given hr, front_given hq] at h
      have hstem : dropTrailingSlashes r = dropTrailingSlashes q :=
        String.toList_inj.mp (List.append_cancel_right h)
      exact .given hr hq (isStem_dropTrailingSlashes r) (hstem ▸ isStem_dropTrailingSlashes q)
  · intro h
    cases h with
    | unset hr hq => rw [front_unset hr, front_unset hq]
    | given hr hq hstem hstem' =>
      rw [front_given hr, front_given hq, ← hstem.unique (isStem_dropTrailingSlashes _),
        ← hstem'.unique (isStem_dropTrailingSlashes _)]

/-! ## Versions -/

theorem versionSuffix_unset (h : v.getD "" = "") : versionSuffix v = "" := by
  cases v with
  | none => rfl
  | some v => exact if_pos (String.isEmpty_iff.mpr h)

theorem versionSuffix_given {v : String} (h : v ≠ "") :
    ∃ mark, (mark = '@' ∨ mark = ':') ∧ (versionSuffix (some v)).toList = mark :: v.toList := by
  have hempty : ¬ v.isEmpty = true := fun hv => h (String.isEmpty_iff.mp hv)
  by_cases hdigest : "sha256:".toList.isPrefixOf v.toList = true
  · refine ⟨'@', .inl rfl, ?_⟩
    rw [versionSuffix, if_neg hempty, if_pos hdigest, String.toList_append]
    rfl
  · refine ⟨':', .inr rfl, ?_⟩
    rw [versionSuffix, if_neg hempty, if_neg hdigest, String.toList_append]
    rfl

theorem mark_of_head_versionSuffix {c : Char} (h : c ∈ (versionSuffix v).toList.head?) :
    c = '@' ∨ c = ':' := by
  rcases unset_or_given v with hv | ⟨v, rfl, hv⟩
  · rw [versionSuffix_unset hv] at h
    cases h
  · obtain ⟨mark, hmark, hlist⟩ := versionSuffix_given hv
    rw [hlist] at h
    cases h
    exact hmark

/-- The version is what stands behind the first character of its suffix. -/
theorem tail_versionSuffix (v : Option String) :
    (versionSuffix v).toList.tail = (v.getD "").toList := by
  rcases unset_or_given v with hv | ⟨v, rfl, hv⟩
  · rw [versionSuffix_unset hv, hv]
    rfl
  · obtain ⟨mark, -, hlist⟩ := versionSuffix_given hv
    rw [hlist]
    rfl

theorem versionSuffix_eq_iff : versionSuffix v = versionSuffix w ↔ v.getD "" = w.getD "" := by
  constructor
  · intro h
    rw [← String.toList_inj, ← tail_versionSuffix, h, tail_versionSuffix]
  · intro h
    rcases unset_or_given v with hv | ⟨v, rfl, hv⟩
    · rw [versionSuffix_unset hv, versionSuffix_unset (h ▸ hv)]
    · rcases unset_or_given w with hw | ⟨w, rfl, -⟩
      · exact absurd (h.trans hw) hv
      · exact congrArg (fun v => versionSuffix (some v)) h

theorem slash_not_mem_versionSuffix (h : ∀ text ∈ v, '/' ∉ text.toList) :
    '/' ∉ (versionSuffix v).toList := by
  rcases unset_or_given v with hv | ⟨v, rfl, hv⟩
  · rw [versionSuffix_unset hv]
    exact List.not_mem_nil
  · obtain ⟨mark, hmark, hlist⟩ := versionSuffix_given hv
    rw [hlist, List.mem_cons, not_or]
    refine ⟨?_, h v rfl⟩
    rcases hmark with rfl | rfl <;> decide

/-! ## References -/

/-- The component names an image by a text that has none of the characters which part a reference,
and its version has no slash. -/
structure NamesImage (c : ComponentSpec) (name : String) : Prop where
  image : c.image = some name
  plain : ∀ x ∈ name.toList, x ≠ '/' ∧ x ≠ ':' ∧ x ≠ '@'
  version : ∀ v ∈ c.version, '/' ∉ v.toList

variable {c d : ComponentSpec} {i j : String}

/-- The reference in its three parts. -/
theorem imagePath_eq (h : c.image = some i) :
    c.imagePath = some (String.ofList
      (front c.repository ++ (i.toList ++ (versionSuffix c.version).toList))) := by
  rw [imagePath, h, Option.map_some, Option.some.injEq, ← String.toList_inj, String.toList_append,
    toList_located, String.toList_ofList, List.append_assoc]

/-- No slash stands behind the repository. -/
theorem NamesImage.ne_slash (h : c.NamesImage i) :
    ∀ x ∈ i.toList ++ (versionSuffix c.version).toList, x ≠ '/' := by
  intro x hx
  rcases List.mem_append.mp hx with hx | hx
  · exact (h.plain x hx).1
  · rintro rfl
    exact slash_not_mem_versionSuffix h.version hx

/-- A reference can be taken apart in one way only. -/
theorem NamesImage.parts_inj (hc : c.NamesImage i) (hd : d.NamesImage j)
    (h : front c.repository ++ (i.toList ++ (versionSuffix c.version).toList) =
      front d.repository ++ (j.toList ++ (versionSuffix d.version).toList)) :
    front c.repository = front d.repository ∧ i = j ∧
      versionSuffix c.version = versionSuffix d.version := by
  have hslash (r : Option String) : ∀ x ∈ (front r).getLast?, ¬ x ≠ '/' :=
    fun x hx hne => hne (eq_slash_of_last_front hx)
  obtain ⟨hfront, hrest⟩ := Text.split_at_last hc.ne_slash hd.ne_slash (hslash _) (hslash _) h
  have hmark (v : Option String) :
      ∀ x ∈ (versionSuffix v).toList.head?, ¬ (x ≠ ':' ∧ x ≠ '@') := by
    intro x hx hne
    rcases mark_of_head_versionSuffix hx with hat | hcolon
    · exact hne.2 hat
    · exact hne.1 hcolon
  obtain ⟨himage, hversion⟩ := Text.split_at_first (fun x hx => (hc.plain x hx).2)
    (fun x hx => (hd.plain x hx).2) (hmark _) (hmark _) hrest
  exact ⟨hfront, String.toList_inj.mp himage, String.toList_inj.mp hversion⟩

/-- Components whose image names have no slash, colon or at sign and whose versions have no slash
have references, and these are equal exactly if the images have one name and one version, an empty
one being none, and come from one repository. -/
theorem image_references_do_not_alias (hc : c.NamesImage i) (hd : d.NamesImage j) :
    ∃ reference reference', c.imagePath = some reference ∧ d.imagePath = some reference' ∧
      (reference = reference' ↔
        i = j ∧ c.version.getD "" = d.version.getD "" ∧
          SameRepository c.repository d.repository) := by
  refine ⟨_, _, imagePath_eq hc.image, imagePath_eq hd.image, ?_⟩
  rw [String.ofList_inj, ← versionSuffix_eq_iff, ← front_eq_iff]
  constructor
  · intro h
    obtain ⟨hfront, himage, hversion⟩ := hc.parts_inj hd h
    exact ⟨himage, hversion, hfront⟩
  · rintro ⟨himage, hversion, hfront⟩
    rw [himage, hversion, hfront]

/-- An image with a digest, from a registry that is reached at a port. -/
def pinned : ComponentSpec where
  repository := some "registry:5000/nvidia//"
  image := some "driver"
  version := some "sha256:abcd"

theorem image_references_do_not_alias_pinned :
    pinned.NamesImage "driver" ∧
      NamesImage { pinned with repository := some "registry:5000/nvidia" } "driver" ∧
      pinned.imagePath = imagePath { pinned with repository := some "registry:5000/nvidia" } ∧
      NamesImage { pinned with version := some "abcd" } "driver" ∧
      pinned.imagePath ≠ imagePath { pinned with version := some "abcd" } := by
  have hall : "driver".toList.all (fun x => x ≠ '/' ∧ x ≠ ':' ∧ x ≠ '@') = true := by decide
  have hplain : ∀ x ∈ "driver".toList, x ≠ '/' ∧ x ≠ ':' ∧ x ≠ '@' :=
    fun x hx => of_decide_eq_true (List.all_eq_true.mp hall x hx)
  have hpinned : pinned.NamesImage "driver" := ⟨rfl, hplain, by rintro _ ⟨⟩; decide⟩
  have hplainly : NamesImage { pinned with repository := some "registry:5000/nvidia" } "driver" :=
    ⟨rfl, hplain, hpinned.version⟩
  have htagged : NamesImage { pinned with version := some "abcd" } "driver" :=
    ⟨rfl, hplain, by rintro _ ⟨⟩; decide⟩
  have hlast : "registry:5000/nvidia".toList.getLast? ≠ some '/' := by decide
  have hstem : IsStem "registry:5000/nvidia//" "registry:5000/nvidia" := ⟨⟨2, by decide⟩, hlast⟩
  have hstem' : IsStem "registry:5000/nvidia" "registry:5000/nvidia" := ⟨⟨0, by decide⟩, hlast⟩
  obtain ⟨_, _, hreference, hreference', hiff⟩ := image_references_do_not_alias hpinned hplainly
  obtain ⟨_, _, htag, htag', hiff'⟩ := image_references_do_not_alias hpinned htagged
  refine ⟨hpinned, hplainly, ?_, htagged, ?_⟩
  · rw [hreference, hreference', hiff.mpr ⟨rfl, rfl, .given (by decide) (by decide) hstem hstem'⟩]
  · intro h
    rw [htag, htag', Option.some.injEq, hiff'] at h
    exact absurd h.2.1 (by decide)

/-- A name with a slash in it has an alias. -/
example : imagePath { image := some "nvidia/driver" } =
    imagePath { repository := some "nvidia", image := some "driver" } := by decide +kernel

end ComponentSpec

end GpuFleet.Policy
