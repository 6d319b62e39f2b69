import GpuFleet.Manifest.Source
import GpuFleet.Proofs.Manifest.Files

/-!
What an operand reads. The files below its directory are read in the order of their paths, and what
they say is rendered, document after document. The first file with a fault is what goes wrong, and
nothing then comes of the files after it. Neither the order in which directories list their entries
nor any file elsewhere matters.
-/
namespace GpuFleet.Manifest

open Kube (DaemonSet)

/-! ## What a file says -/

/-- The document is an object of the kind DaemonSet. -/
def IsDaemonSet (v : Yaml.Value) : Prop :=
  v.isNull = false ∧ (v.get? "kind").bind (·.text?) = some "DaemonSet"

/-- The DaemonSets of documents, in their order, with the other documents passed over. -/
inductive Decodes : List Yaml.Value → List DaemonSet → Prop
  | nil : Decodes [] []
  | other {v : Yaml.Value} {documents : List Yaml.Value} {ds : List DaemonSet}
      (hkind : ¬ IsDaemonSet v) (hrest : Decodes documents ds) : Decodes (v :: documents) ds
  | daemonSet {v : Yaml.Value} {documents : List Yaml.Value} {d : DaemonSet} {ds : List DaemonSet}
      (hkind : IsDaemonSet v) (hd : DaemonSet.ofYaml? v = some d) (hrest : Decodes documents ds) :
      Decodes (v :: documents) (d :: ds)

/-- A file is a text of YAML documents with these DaemonSets. -/
def Holds (content : ByteArray) (ds : List DaemonSet) : Prop :=
  ∃ text documents, text.toUTF8 = content ∧ Yaml.Value.documents? text = some documents ∧
    Decodes documents ds

/-- What is wrong with a file. Of a text that is refused, the complaint is what the reader of YAML
says. -/
inductive Fault (complaint : String → String) (content : ByteArray) (path : String) : Error → Prop
  | notText (hbytes : ∀ text : String, text.toUTF8 ≠ content) :
      Fault complaint content path (.notText path)
  | notYaml (text : String) (htext : text.toUTF8 = content)
      (hparse : Yaml.Value.documents? text = none) :
      Fault complaint content path (.malformed path (complaint text))
  | notDecoded (text : String) (documents : List Yaml.Value) (v : Yaml.Value)
      (htext : text.toUTF8 = content) (hparse : Yaml.Value.documents? text = some documents)
      (hmem : v ∈ documents) (hkind : IsDaemonSet v) (hdecode : DaemonSet.ofYaml? v = none) :
      Fault complaint content path (.malformed path (complaint text))

theorem fromUTF8?_eq_some_iff {content : ByteArray} {text : String} :
    String.fromUTF8? content = some text ↔ text.toUTF8 = content := by
  unfold String.fromUTF8?
  constructor
  · intro h
    split at h
    · cases h
      rfl
    · cases h
  · rintro rfl
    rw [String.toUTF8_eq_toByteArray, dif_pos text.isValidUTF8]
    rfl

theorem fromUTF8?_eq_none_iff {content : ByteArray} :
    String.fromUTF8? content = none ↔ ∀ text : String, text.toUTF8 ≠ content := by
  simp only [Option.eq_none_iff_forall_ne_some, ne_eq, fromUTF8?_eq_some_iff]

/-- The test for the documents that are decoded. -/
def decodable (v : Yaml.Value) : Bool :=
  !v.isNull && (v.get? "kind").bind (·.text?) == some "DaemonSet"

theorem decodable_iff {v : Yaml.Value} : decodable v = true ↔ IsDaemonSet v := by
  simp [decodable, IsDaemonSet]

theorem mapM_filter_decodable_iff {documents : List Yaml.Value} {ds : List DaemonSet} :
    (documents.filter decodable).mapM DaemonSet.ofYaml? = some ds ↔ Decodes documents ds := by
  induction documents generalizing ds with
  | nil =>
    constructor
    · rintro ⟨⟩
      exact .nil
    · rintro ⟨⟩
      rfl
  | cons v documents ih =>
    by_cases hkind : IsDaemonSet v
    · simp only [List.filter_cons_of_pos (decodable_iff.mpr hkind), List.mapM_cons,
        Option.bind_eq_bind, Option.bind_eq_some_iff, Option.pure_def, Option.some.injEq]
      constructor
      · rintro ⟨d, hd, rest, hrest, rfl⟩
        exact .daemonSet hkind hd (ih.mp hrest)
      · intro h
        cases h with
        | other hother hrest => exact absurd hkind hother
        | daemonSet _ hd hrest => exact ⟨_, hd, _, ih.mpr hrest, rfl⟩
    · rw [List.filter_cons_of_neg (mt decodable_iff.mp hkind), ih]
      constructor
      · exact .other hkind
      · intro h
        cases h with
        | other _ hrest => exact hrest
        | daemonSet hkind' _ _ => exact absurd hkind' hkind

private theorem mapM_eq_none_iff {α β : Type} {f : α → Option β} {as : List α} :
    as.mapM f = none ↔ ∃ a ∈ as, f a = none := by
  induction as with
  | nil => simp
  | cons a as ih =>
    rw [List.mapM_cons, List.exists_mem_cons_iff, ← ih]
    cases f a <;> cases as.mapM f <;> simp

theorem daemonSets?_eq_some_iff {text : String} {ds : List DaemonSet} :
    daemonSets? text = some ds ↔
      ∃ documents, Yaml.Value.documents? text = some documents ∧ Decodes documents ds := by
  rw [daemonSets?, Option.bind_eq_bind, Option.bind_eq_some_iff]
  exact exists_congr fun documents => and_congr_right fun _ => mapM_filter_decodable_iff

theorem daemonSets?_eq_none_iff {text : String} :
    daemonSets? text = none ↔ Yaml.Value.documents? text = none ∨
      ∃ documents v, Yaml.Value.documents? text = some documents ∧ v ∈ documents ∧
        IsDaemonSet v ∧ DaemonSet.ofYaml? v = none := by
  have hnone : ∀ documents : List Yaml.Value,
      (documents.filter decodable).mapM DaemonSet.ofYaml? = none ↔
        ∃ v, v ∈ documents ∧ IsDaemonSet v ∧ DaemonSet.ofYaml? v = none := by
    intro documents
    simp only [mapM_eq_none_iff, List.mem_filter, decodable_iff, and_assoc]
  change (Yaml.Value.documents? text).bind
    (fun documents => (documents.filter decodable).mapM DaemonSet.ofYaml?) = none ↔ _
  cases hparse : Yaml.Value.documents? text with
  | none => simp
  | some documents => simp [hnone]

namespace Source

variable (s : Source) {path : Path} {content : ByteArray}

theorem readFile_ok_iff {ds : List DaemonSet} :
    s.readFile path content = .ok ds ↔ Holds content ds := by
  have hread : s.readFile path content = .ok ds ↔
      ∃ text, String.fromUTF8? content = some text ∧ daemonSets? text = some ds := by
    unfold readFile
    cases String.fromUTF8? content with
    | none => simp
    | some text => cases h : daemonSets? text <;> simp [h]
  simp only [hread, fromUTF8?_eq_some_iff, daemonSets?_eq_some_iff, Holds, exists_and_left]

theorem readFile_error_iff {e : Error} :
    s.readFile path content = .error e ↔ Fault s.complaint content (s.pathText path) e := by
  have hread : s.readFile path content = .error e ↔
      String.fromUTF8? content = none ∧ e = .notText (s.pathText path) ∨
        ∃ text, String.fromUTF8? content = some text ∧ daemonSets? text = none ∧
          e = .malformed (s.pathText path) (s.complaint text) := by
    unfold readFile
    cases String.fromUTF8? content with
    | none => simp [eq_comm]
    | some text => cases h : daemonSets? text <;> simp [h, eq_comm]
  rw [hread, fromUTF8?_eq_none_iff]
  simp only [fromUTF8?_eq_some_iff]
  constructor
  · rintro (⟨hbytes, rfl⟩ | ⟨text, htext, hnone, rfl⟩)
    · exact .notText hbytes
    · rcases daemonSets?_eq_none_iff.mp hnone with hparse | ⟨documents, v, hparse, hmem, hkind, hv⟩
      · exact .notYaml text htext hparse
      · exact .notDecoded text documents v htext hparse hmem hkind hv
  · intro h
    cases h with
    | notText hbytes => exact .inl ⟨hbytes, rfl⟩
    | notYaml text htext hparse =>
      exact .inr ⟨text, htext, daemonSets?_eq_none_iff.mpr (.inl hparse), rfl⟩
    | notDecoded text documents v htext hparse hmem hkind hv =>
      have hnone := daemonSets?_eq_none_iff.mpr (.inr ⟨documents, v, hparse, hmem, hkind, hv⟩)
      exact .inr ⟨text, htext, hnone, rfl⟩

/-! ## What several files say -/

private theorem mapM_ok_iff {α β ε : Type} {f : α → Except ε β} {as : List α} {bs : List β} :
    as.mapM f = .ok bs ↔ List.Forall₂ (fun a b => f a = .ok b) as bs := by
  induction as generalizing bs with
  | nil => cases bs <;> simp [pure, Except.pure]
  | cons a as ih =>
    simp only [List.mapM_cons, List.forall₂_cons_left_iff, ← ih]
    cases f a with
    | error e => simp [bind, Except.bind]
    | ok b => cases as.mapM f <;> simp [bind, Except.bind, pure, Except.pure, eq_comm]

private theorem mapM_cons_error_iff {α β ε : Type} {f : α → Except ε β} {a : α} {as : List α}
    {e : ε} : (a :: as).mapM f = .error e ↔
      f a = .error e ∨ (∃ b, f a = .ok b) ∧ as.mapM f = .error e := by
  rw [List.mapM_cons]
  cases f a with
  | error d => simp [bind, Except.bind]
  | ok b => cases as.mapM f <;> simp [bind, Except.bind, pure, Except.pure]

/-- The first item with an error decides. -/
private theorem mapM_error_iff {α β ε : Type} {f : α → Except ε β} {as : List α} {e : ε} :
    as.mapM f = .error e ↔ ∃ before a after, as = before ++ a :: after ∧
      (∀ b ∈ before, ∃ d, f b = .ok d) ∧ f a = .error e := by
  induction as with
  | nil => simp [pure, Except.pure]
  | cons a as ih =>
    rw [mapM_cons_error_iff, ih]
    constructor
    · rintro (ha | ⟨hok, before, c, after, rfl, hbefore, hc⟩)
      · exact ⟨[], a, as, rfl, by simp, ha⟩
      · exact ⟨a :: before, c, after, rfl, List.forall_mem_cons.mpr ⟨hok, hbefore⟩, hc⟩
    · rintro ⟨before, c, after, heq, hbefore, hc⟩
      cases before with
      | nil =>
        obtain ⟨rfl, rfl⟩ := List.cons.inj heq
        exact .inl hc
      | cons b before =>
        obtain ⟨rfl, rfl⟩ := List.cons.inj heq
        obtain ⟨hok, hbefore⟩ := List.forall_mem_cons.mp hbefore
        exact .inr ⟨hok, before, c, after, rfl, hbefore, hc⟩

theorem readFiles_eq (files : List (Path × ByteArray)) :
    s.readFiles files = (files.mapM fun f => s.readFile f.1 f.2).map (·.flatten) := by
  unfold readFiles
  cases files.mapM fun f => s.readFile f.1 f.2 <;> rfl

theorem readFiles_ok_iff {files : List (Path × ByteArray)} {ds : List DaemonSet} :
    s.readFiles files = .ok ds ↔
      ∃ parts, List.Forall₂ (fun f part => Holds f.2 part) files parts ∧ ds = parts.flatten := by
  have hparts : ∀ parts, (files.mapM fun f => s.readFile f.1 f.2) = .ok parts ↔
      List.Forall₂ (fun f part => Holds f.2 part) files parts := by
    simp only [mapM_ok_iff, readFile_ok_iff, implies_true]
  simp only [readFiles_eq, ← hparts]
  cases files.mapM fun f => s.readFile f.1 f.2 <;> simp [Except.map, eq_comm]

theorem readFiles_error_iff {files : List (Path × ByteArray)} {e : Error} :
    s.readFiles files = .error e ↔ ∃ before f after, files = before ++ f :: after ∧
      (∀ g ∈ before, ∃ part, Holds g.2 part) ∧ Fault s.complaint f.2 (s.pathText f.1) e := by
  have hfirst : (files.mapM fun f => s.readFile f.1 f.2) = .error e ↔
      ∃ before f after, files = before ++ f :: after ∧
        (∀ g ∈ before, ∃ part, Holds g.2 part) ∧ Fault s.complaint f.2 (s.pathText f.1) e := by
    simp only [mapM_error_iff, readFile_ok_iff, readFile_error_iff]
  rw [readFiles_eq, ← hfirst]
  cases files.mapM fun f => s.readFile f.1 f.2 <;> simp [Except.map]

/-- The files that are read for an operand, in the order in which they are read. -/
def manifestFiles (o : Operand) : List (Path × ByteArray) :=
  match s.root.find? [o.name] with
  | some (.dir entries) => Tree.filesWithSuffix manifestSuffixes [o.name] (.dir entries)
  | some (.file _) | none => []

theorem drafts_eq (o : Operand) : s.drafts o = s.readFiles (s.manifestFiles o) := by
  unfold drafts manifestFiles
  rcases s.root.find? [o.name] with _ | _ | entries <;> rfl

/-! ## What an operand gets -/

/-- What an operand gets from the manifests. -/
structure ReadsManifests (s : Source) (o : Operand) (ctx : Context) : Prop where
  /-- Exactly the manifest files below the directory of the operand's name are read, in order. -/
  listing : Tree.IsListing manifestSuffixes [o.name] s.root (s.manifestFiles o)
  /-- All files are well formed, and what they say is rendered. -/
  ok_iff : ∀ ds, s.desired o ctx = .ok ds ↔ ∃ parts,
    List.Forall₂ (fun f part => Holds f.2 part) (s.manifestFiles o) parts ∧
      ds = parts.flatten.map (render o ctx)
  /-- The first file with a fault is what goes wrong. -/
  error_iff : ∀ e, s.desired o ctx = .error e ↔ ∃ before f after,
    s.manifestFiles o = before ++ f :: after ∧ (∀ g ∈ before, ∃ part, Holds g.2 part) ∧
      Fault s.complaint f.2 (s.pathText f.1) e
  /-- There is no directory of the operand's name. -/
  missing : (∀ entries, s.root.find? [o.name] ≠ some (.dir entries)) → s.desired o ctx = .ok []
  /-- Neither files elsewhere nor the order of entries matters. -/
  same_below : ∀ root : Tree, root.Proper → Tree.SameBelow [o.name] root s.root →
    { s with root := root }.desired o ctx = s.desired o ctx

/-- The directories directly below the root that no operand reads, each once, in ascending order. -/
structure ListsUnknown (t : Tree) (names : List String) : Prop where
  mem_iff : ∀ name, name ∈ names ↔
    (∃ entries, t.find? [name] = some (.dir entries)) ∧ ∀ o : Operand, o.name ≠ name
  ascending : names.Pairwise (· < ·)

theorem isListing_manifestFiles {s : Source} (h : s.root.Proper) (o : Operand) :
    Tree.IsListing manifestSuffixes [o.name] s.root (s.manifestFiles o) := by
  unfold manifestFiles
  split
  · next entries hdir => exact Tree.isListing_filesWithSuffix manifestSuffixes h hdir
  · next content hfile => exact Tree.isListing_nil _ (by simp [hfile])
  · next hnone => exact Tree.isListing_nil _ (by simp [hnone])

private theorem pairwise_lt_mergeSort {names : List String} (h : names.Nodup) :
    (names.mergeSort (· ≤ ·)).Pairwise (· < ·) :=
  Tree.pairwise_mergeSort_of_nodup id (by simpa using fun _ _ _ => String.le_trans)
    (by simpa using String.le_total)
    (fun _ _ hle hne => Std.lt_of_le_of_ne (of_decide_eq_true hle) hne) (by simpa using h)

theorem listsUnknown_unknownDirs {t : Tree} (h : t.Proper) : ListsUnknown t (unknownDirs t) := by
  cases h with
  | file content => exact ⟨by simp [unknownDirs, Tree.find?], .nil⟩
  | dir entries hnames hentries =>
    constructor
    case mem_iff =>
      intro name
      have hfind : (Tree.dir entries).find? [name] = entries.lookup name := by
        simp [Tree.find?]
      simp only [unknownDirs, List.mem_mergeSort, List.mem_map, List.mem_filter, Bool.and_eq_true,
        Option.isNone_iff_eq_none, Operand.ofName?_eq_none_iff, hfind,
        Tree.lookup_eq_some_iff_mem hnames]
      constructor
      · rintro ⟨⟨n, u⟩, ⟨hmem, hdir, hname⟩, rfl⟩
        cases u with
        | file content => cases hdir
        | dir below => exact ⟨⟨below, hmem⟩, hname⟩
      · rintro ⟨⟨below, hmem⟩, hname⟩
        exact ⟨(name, .dir below), ⟨hmem, rfl, hname⟩, rfl⟩
    case ascending =>
      exact pairwise_lt_mergeSort (hnames.sublist (List.filter_sublist.map _))

variable {o : Operand} {ctx : Context}

theorem desired_ok_iff {ds : List DaemonSet} :
    s.desired o ctx = .ok ds ↔
      ∃ drafts, s.drafts o = .ok drafts ∧ ds = drafts.map (render o ctx) := by
  unfold desired
  cases s.drafts o <;> simp [Except.map, eq_comm]

theorem desired_error_iff {e : Error} : s.desired o ctx = .error e ↔ s.drafts o = .error e := by
  unfold desired
  cases s.drafts o <;> simp [Except.map]

/-- What operands get from the manifests, and what no operand gets. -/
theorem desired_reads_manifests (s : Source) (h : s.root.Proper) (o : Operand) (ctx : Context) :
    ReadsManifests s o ctx ∧ ListsUnknown s.root (unknownDirs s.root) := by
  have hlisting := isListing_manifestFiles h o
  refine ⟨⟨hlisting, ?ok, ?error, ?missing, ?sameBelow⟩, listsUnknown_unknownDirs h⟩
  case ok =>
    intro ds
    rw [desired_ok_iff, drafts_eq]
    simp only [readFiles_ok_iff]
    constructor
    · rintro ⟨_, ⟨parts, hparts, rfl⟩, rfl⟩
      exact ⟨parts, hparts, rfl⟩
    · rintro ⟨parts, hparts, rfl⟩
      exact ⟨_, ⟨parts, hparts, rfl⟩, rfl⟩
  case error =>
    intro e
    rw [desired_error_iff, drafts_eq, readFiles_error_iff]
  case missing =>
    intro hdir
    rw [desired, drafts_eq, manifestFiles]
    split
    · next entries h => exact absurd h (hdir entries)
    · rfl
    · rfl
  case sameBelow =>
    intro root hroot hbelow
    have hlisting' := isListing_manifestFiles (s := { s with root := root }) hroot o
    -- the files are the same, and so are their names in messages
    rw [desired, desired, drafts_eq, drafts_eq, hlisting'.eq hlisting hbelow]
    rfl

/-- Two broken files of an operand, and a directory that is nobody's. -/
def broken : Source :=
  ⟨"manifests", .dir [
    ("typo", .emptyDir),
    ("state-driver", .dir [
      ("dir.yaml", .file "[".toUTF8),
      ("dir", .dir [("x.yaml", .file "[".toUTF8)])])],
    fun text => "unfinished: " ++ text⟩

theorem proper_broken : broken.root.Proper := by
  have hfile := Tree.Proper.file "[".toUTF8
  have hdir : (Tree.dir [("x.yaml", .file "[".toUTF8)]).Proper :=
    .dir _ (by simp) (by simpa using hfile)
  have hdriver : (Tree.dir [("dir.yaml", .file "[".toUTF8),
      ("dir", .dir [("x.yaml", .file "[".toUTF8)])]).Proper :=
    .dir _ (by simp) (by simpa using ⟨hfile, hdir⟩)
  exact .dir _ (by simp) (by simpa using ⟨.dir [] (by simp) (by simp), hdriver⟩)

theorem manifestFiles_broken : broken.manifestFiles .driver =
    [(["state-driver", "dir", "x.yaml"], "[".toUTF8),
      (["state-driver", "dir.yaml"], "[".toUTF8)] := by
  have hle : Tree.pathLe (["state-driver", "dir.yaml"], "[".toUTF8)
    (["state-driver", "dir", "x.yaml"], "[".toUTF8) = false := rfl
  change [(["state-driver", "dir.yaml"], "[".toUTF8),
    (["state-driver", "dir", "x.yaml"], "[".toUTF8)].mergeSort Tree.pathLe = _
  simp [List.mergeSort, hle, -String.toUTF8_eq_toByteArray]

/-- What is in the directory goes wrong first. -/
theorem desired_reads_manifests_broken :
    broken.root.Proper ∧
      broken.desired .driver ⟨"gpu-operator", .docker, none⟩ =
        .error (.malformed "manifests/state-driver/dir/x.yaml" "unfinished: [") ∧
      "typo" ∈ unknownDirs broken.root := by
  obtain ⟨hreads, hunknown⟩ :=
    desired_reads_manifests broken proper_broken .driver ⟨"gpu-operator", .docker, none⟩
  have hfault : Fault broken.complaint "[".toUTF8 "manifests/state-driver/dir/x.yaml"
      (.malformed "manifests/state-driver/dir/x.yaml" "unfinished: [") := .notYaml "[" rfl rfl
  refine ⟨proper_broken, ?_, ?_⟩
  · exact (hreads.error_iff _).mpr ⟨[], _, _, manifestFiles_broken, by simp, hfault⟩
  · exact (hunknown.mem_iff _).mpr ⟨⟨[], rfl⟩, fun o => by cases o <;> decide⟩

end Source

end GpuFleet.Manifest
