import GpuFleet.Drift.Fingerprint
import GpuFleet.Proofs.Digest.Sparse
import GpuFleet.Proofs.Drift.Faithful
import GpuFleet.Proofs.Drift.Order

/-!
What the fingerprint of a DaemonSet tells. Two DaemonSets are fingerprinted by one text exactly if
they agree in every tracked field. At the level of the facts, an unset field says the same as an
empty one; inside containers it does not.
-/
namespace GpuFleet.Drift

open Json (Faithful faithful_string faithful_bool)
open Kube (DaemonSet Container Labels Part)

variable {α : Type} {write : α → Json}

/-- What a part says. One that is not there says as much as one without members. -/
def said {shape : Kube.Shape} (p : Option (Part shape)) : Json :=
  (p.map Part.json).getD (.object [])

/-- The metadata of the pod template. -/
def templateMeta? (d : DaemonSet) : Option Kube.ObjectMeta :=
  (d.spec.map (·.template)).bind (·.metadata)

/-- The pod specification of the template. -/
def pod? (d : DaemonSet) : Option Kube.PodSpec := (d.spec.map (·.template)).bind (·.spec)

/-- The init containers, none where they are unset. -/
def initContainers (d : DaemonSet) : List Container := ((pod? d).bind (·.initContainers)).getD []

def containers (d : DaemonSet) : List Container := ((pod? d).map (·.containers)).getD []

/-- Containers that agree in every tracked field. -/
structure SameContainer (c d : Container) : Prop where
  name : c.name = d.name
  image : c.image = d.image
  imagePullPolicy : c.imagePullPolicy = d.imagePullPolicy
  command : c.command = d.command
  args : c.args = d.args
  /-- They have the same literal variables equally often. -/
  env : (directEntries (c.env.getD [])).Perm (directEntries (d.env.getD []))
  ports : c.ports = d.ports
  /-- Every volume is mounted alike at every path. -/
  volumeMounts : ∀ name path, mountsAt c.volumeMounts name path = mountsAt d.volumeMounts name path
  resources : c.resources = d.resources
  securityContext : c.securityContext = d.securityContext

/-- DaemonSets that agree in every tracked field. -/
structure SameTracked (a b : DaemonSet) : Prop where
  name : a.metadata.name.getD "" = b.metadata.name.getD ""
  ns : a.metadata.ns.getD "" = b.metadata.ns.getD ""
  labels : a.metadata.labels.getD ∅ = b.metadata.labels.getD ∅
  updateStrategy : said (a.spec.bind (·.updateStrategy)) = said (b.spec.bind (·.updateStrategy))
  templateLabels :
    ((templateMeta? a).bind (·.labels)).getD ∅ = ((templateMeta? b).bind (·.labels)).getD ∅
  templateAnnotations : ((templateMeta? a).bind (·.annotations)).getD ∅ =
    ((templateMeta? b).bind (·.annotations)).getD ∅
  nodeSelector :
    ((pod? a).bind (·.nodeSelector)).getD ∅ = ((pod? b).bind (·.nodeSelector)).getD ∅
  affinity : said ((pod? a).bind (·.affinity)) = said ((pod? b).bind (·.affinity))
  tolerations : ((pod? a).bind (·.tolerations)).getD [] = ((pod? b).bind (·.tolerations)).getD []
  priorityClassName :
    ((pod? a).bind (·.priorityClassName)).getD "" = ((pod? b).bind (·.priorityClassName)).getD ""
  runtimeClassName :
    ((pod? a).bind (·.runtimeClassName)).getD "" = ((pod? b).bind (·.runtimeClassName)).getD ""
  serviceAccountName :
    ((pod? a).bind (·.serviceAccountName)).getD "" = ((pod? b).bind (·.serviceAccountName)).getD ""
  hostNetwork :
    ((pod? a).bind (·.hostNetwork)).getD false = ((pod? b).bind (·.hostNetwork)).getD false
  hostPid : ((pod? a).bind (·.hostPID)).getD false = ((pod? b).bind (·.hostPID)).getD false
  securityContext :
    said ((pod? a).bind (·.securityContext)) = said ((pod? b).bind (·.securityContext))
  /-- The volumes of every name have the same origins. -/
  volumes : ∀ name,
    origins ((pod? a).bind (·.volumes)) name = origins ((pod? b).bind (·.volumes)) name
  initContainers : List.Forall₂ SameContainer (initContainers a) (initContainers b)
  containers : List.Forall₂ SameContainer (containers a) (containers b)

/-! ## One fact -/

private theorem effective?_eq_none_iff (v : Json) :
    Digest.effective? v = none ↔ Digest.isZero v = true := by
  simp [Digest.effective?]

/-- A fact that may be absent contributes what there is to see of it, where zero looks like
nothing. -/
theorem effective?_orNull_iff {β : Type} (view : α → β) (empty : β) (hwrite : Faithful write)
    (hview : Function.Injective view)
    (hzero : ∀ a, Digest.isZero (write a) = true ↔ view a = empty) (a b : Option α) :
    Digest.effective? (orNull write a) = Digest.effective? (orNull write b) ↔
      (a.map view).getD empty = (b.map view).getD empty := by
  have hnull : Digest.effective? Json.null = none := rfl
  cases a with
  | none => cases b with
    | none => exact iff_of_true rfl rfl
    | some b =>
      rw [orNull, orNull, hnull, eq_comm, effective?_eq_none_iff, hzero]
      exact eq_comm
  | some a => cases b with
    | none =>
      rw [orNull, orNull, hnull, effective?_eq_none_iff, hzero]
      rfl
    | some b =>
      simp only [orNull, Option.map_some, Option.getD_some]
      constructor
      · intro h
        cases ha : Digest.isZero (write a) with
        | true =>
          rw [(effective?_eq_none_iff _).mpr ha, eq_comm, effective?_eq_none_iff] at h
          rw [(hzero a).mp ha, (hzero b).mp h]
        | false =>
          have hb : Digest.isZero (write b) ≠ true := by
            rw [ne_eq, ← effective?_eq_none_iff, ← h, effective?_eq_none_iff, ha]
            exact Bool.false_ne_true
          rw [Digest.effective?, Digest.effective?, ha, if_neg Bool.false_ne_true, if_neg hb] at h
          rw [hwrite (Option.some.inj h)]
      · intro h
        rw [hview h]

/-- There may be nothing to see of a fact but itself. -/
private theorem effective?_orNull_iff_getD (empty : α) (hwrite : Faithful write)
    (hzero : ∀ a, Digest.isZero (write a) = true ↔ a = empty) (a b : Option α) :
    Digest.effective? (orNull write a) = Digest.effective? (orNull write b) ↔
      a.getD empty = b.getD empty := by
  have h := effective?_orNull_iff id empty hwrite Function.injective_id hzero a b
  rwa [Option.map_id, id_eq, id_eq] at h

private theorem effective?_text_iff (a b : Option String) :
    Digest.effective? (orNull .string a) = Digest.effective? (orNull .string b) ↔
      a.getD "" = b.getD "" :=
  effective?_orNull_iff_getD "" faithful_string (by simp [Digest.isZero]) a b

private theorem effective?_string_iff (s t : String) :
    Digest.effective? (.string s) = Digest.effective? (.string t) ↔ s = t :=
  effective?_text_iff (some s) (some t)

private theorem effective?_bool_iff (p q : Bool) :
    Digest.effective? (.bool p) = Digest.effective? (.bool q) ↔ p = q := by
  cases p <;> cases q <;> decide

private theorem effective?_labels_iff (a b : Option Labels) :
    Digest.effective? (orNull Labels.toJson a) = Digest.effective? (orNull Labels.toJson b) ↔
      a.getD ∅ = b.getD ∅ :=
  effective?_orNull_iff_getD ∅ Kube.faithful_labels (by simp [Digest.isZero, Labels.toJson]) a b

private theorem effective?_items_iff (hwrite : Faithful write) (a b : Option (List α)) :
    Digest.effective? (orNull (fun as => .array (as.map write)) a) =
      Digest.effective? (orNull (fun as => .array (as.map write)) b) ↔ a.getD [] = b.getD [] :=
  effective?_orNull_iff_getD [] hwrite.list (by simp [Digest.isZero]) a b

private theorem effective?_part_iff {fields : List Kube.Field}
    (hclosed : (Kube.Shape.record fields).isClosed = true) (a b : Option (Part (.record fields))) :
    Digest.effective? (orNull Part.json a) = Digest.effective? (orNull Part.json b) ↔
      said a = said b := by
  refine effective?_orNull_iff Part.json (.object []) (Part.faithful hclosed) ?_ (fun p => ?_) a b
  · rintro ⟨v, hv⟩ ⟨w, hw⟩ rfl
    rfl
  · obtain ⟨v, hv⟩ := p
    obtain ⟨members, rfl, -⟩ := Kube.Shape.isNormal_record (.inl hv)
    simp [Digest.isZero]

/-! ## Containers and volumes -/

private theorem ofContainer_eq_iff (c d : Container) :
    ContainerFacts.ofContainer c = ContainerFacts.ofContainer d ↔ SameContainer c d := by
  rw [ContainerFacts.ofContainer, ContainerFacts.ofContainer, ContainerFacts.mk.injEq,
    envEntries_eq_iff, mountEntries_eq_iff]
  constructor
  · rintro ⟨h1, h2, h3, h4, h5, h6, h7, h8, h9, h10⟩
    exact ⟨h1, h2, h3, h4, h5, h6, h7, h8, h9, h10⟩
  · rintro ⟨h1, h2, h3, h4, h5, h6, h7, h8, h9, h10⟩
    exact ⟨h1, h2, h3, h4, h5, h6, h7, h8, h9, h10⟩

private theorem effective?_containers_iff (cs ds : Option (List Container)) :
    Digest.effective? (orNull (fun as => .array (as.map ContainerFacts.toJson))
        (cs.bind containerFacts)) =
      Digest.effective? (orNull (fun as => .array (as.map ContainerFacts.toJson))
        (ds.bind containerFacts)) ↔
      List.Forall₂ SameContainer (cs.getD []) (ds.getD []) := by
  have hfacts : ∀ o : Option (List Container), (o.bind containerFacts).getD [] =
      (o.getD []).map ContainerFacts.ofContainer := by
    intro o
    match o with
    | none | some [] | some (_ :: _) => rfl
  rw [effective?_items_iff ContainerFacts.faithful, hfacts, hfacts, ← List.forall₂_eq_eq_eq,
    List.forall₂_map_left_iff, List.forall₂_map_right_iff]
  simp only [ofContainer_eq_iff]

private theorem effective?_volumes_iff (vs ws : Option (List Kube.Volume)) :
    Digest.effective? (orNull (fun vs => .array (vs.map VolumeEntry.toJson)) (volumeEntries vs)) =
      Digest.effective? (orNull (fun vs => .array (vs.map VolumeEntry.toJson)) (volumeEntries ws)) ↔
      ∀ name, origins vs name = origins ws name := by
  have hsome : ∀ o : Option (List Kube.Volume), volumeEntries o ≠ some [] := by
    intro o h
    have hnone := (volumeEntries_normalises.eq_none_iff o).mpr
    rw [← List.nil_perm.mp (volumeEntries_normalises.ordered o _ h).perm, h] at hnone
    cases hnone rfl
  have hsame : ∀ es es' : Option (List VolumeEntry), es ≠ some [] → es' ≠ some [] →
      (es.getD [] = es'.getD [] ↔ es = es') := by
    intro es es' hes hes'
    cases es <;> cases es' <;> simp_all [eq_comm]
  rw [effective?_items_iff VolumeEntry.faithful, ← volumeEntries_eq_iff]
  exact hsame _ _ (hsome vs) (hsome ws)

/-! ## All facts -/

/-- The names of the facts, none twice, are told apart in the sparse text. -/
private theorem isPlainName_of_mem_members (f : Facts) :
    ∀ m ∈ f.members, Digest.isPlainName m.1 = true := by
  have hnames : ∀ key ∈ f.members.map Prod.fst, Digest.isPlainName key = true := by
    simp only [Facts.members, List.map]
    decide
  intro m hm
  exact hnames m.1 (List.mem_map_of_mem hm)

/-- Members with the same names in the same order contribute alike where their values do. -/
private theorem lookup_bind_of_map_eq {ms ns : Members}
    (h : ms.map (fun m => (m.1, Digest.effective? m.2)) =
      ns.map (fun m => (m.1, Digest.effective? m.2))) (key : String) :
    (ms.lookup key).bind Digest.effective? = (ns.lookup key).bind Digest.effective? := by
  have hlookup : ∀ members : Members, (members.lookup key).bind Digest.effective? =
      ((members.map fun m => (m.1, Digest.effective? m.2)).lookup key).join := by
    intro members
    induction members with
    | nil => rfl
    | cons m rest ih =>
      obtain ⟨k, v⟩ := m
      by_cases hk : key = k
      · simp [hk]
      · simpa [List.lookup_cons, beq_false_of_ne hk] using ih
  rw [hlookup, hlookup, h]

private theorem fact_eq {f g : Facts}
    (h : ∀ key, (f.members.lookup key).bind Digest.effective? =
      (g.members.lookup key).bind Digest.effective?) (key : String) {v w : Json}
    (hv : f.members.lookup key = some v) (hw : g.members.lookup key = some w) :
    Digest.effective? v = Digest.effective? w := by
  have hkey := h key
  rw [hv, hw] at hkey
  exact hkey

/-- The text of the fingerprint says what the tracked fields are, and nothing else. -/
theorem fingerprintText_eq_iff (a b : DaemonSet) :
    fingerprintText a = fingerprintText b ↔ SameTracked a b := by
  have hstrategy := @effective?_part_iff _
    (by decide : Kube.Catalog.daemonSetUpdateStrategy.isClosed = true)
  have haffinity := @effective?_part_iff _ (by decide : Kube.Catalog.affinity.isClosed = true)
  have hsecurity := @effective?_part_iff _
    (by decide : Kube.Catalog.podSecurityContext.isClosed = true)
  have htolerations := effective?_items_iff
    (Part.faithful (by decide : Kube.Catalog.toleration.isClosed = true))
  rw [fingerprintText, fingerprintText, Digest.sparseText_eq_iff
    (isPlainName_of_mem_members _) (isPlainName_of_mem_members _)]
  constructor
  · intro h
    exact {
      name := (effective?_string_iff _ _).mp (fact_eq h "name" rfl rfl)
      ns := (effective?_text_iff _ _).mp (fact_eq h "namespace" rfl rfl)
      labels := (effective?_labels_iff _ _).mp (fact_eq h "labels" rfl rfl)
      updateStrategy := (hstrategy _ _).mp (fact_eq h "updateStrategy" rfl rfl)
      templateLabels := (effective?_labels_iff _ _).mp (fact_eq h "templateLabels" rfl rfl)
      templateAnnotations :=
        (effective?_labels_iff _ _).mp (fact_eq h "templateAnnotations" rfl rfl)
      nodeSelector := (effective?_labels_iff _ _).mp (fact_eq h "nodeSelector" rfl rfl)
      affinity := (haffinity _ _).mp (fact_eq h "affinity" rfl rfl)
      tolerations := (htolerations _ _).mp (fact_eq h "tolerations" rfl rfl)
      priorityClassName := (effective?_text_iff _ _).mp (fact_eq h "priorityClassName" rfl rfl)
      runtimeClassName := (effective?_text_iff _ _).mp (fact_eq h "runtimeClassName" rfl rfl)
      serviceAccountName := (effective?_text_iff _ _).mp (fact_eq h "serviceAccountName" rfl rfl)
      hostNetwork := (effective?_bool_iff _ _).mp (fact_eq h "hostNetwork" rfl rfl)
      hostPid := (effective?_bool_iff _ _).mp (fact_eq h "hostPid" rfl rfl)
      securityContext := (hsecurity _ _).mp (fact_eq h "podSecurityContext" rfl rfl)
      volumes := (effective?_volumes_iff _ _).mp (fact_eq h "volumes" rfl rfl)
      initContainers := (effective?_containers_iff _ _).mp (fact_eq h "initContainers" rfl rfl)
      containers := (effective?_containers_iff _ _).mp (fact_eq h "containers" rfl rfl) }
  · intro h
    refine lookup_bind_of_map_eq ?_
    simp only [Facts.members, List.map_cons, List.map_nil, List.cons.injEq, Prod.mk.injEq,
      true_and, and_true]
    exact ⟨(effective?_string_iff _ _).mpr h.name, (effective?_text_iff _ _).mpr h.ns,
      (effective?_labels_iff _ _).mpr h.labels, (hstrategy _ _).mpr h.updateStrategy,
      (effective?_labels_iff _ _).mpr h.templateLabels,
      (effective?_labels_iff _ _).mpr h.templateAnnotations,
      (effective?_labels_iff _ _).mpr h.nodeSelector, (haffinity _ _).mpr h.affinity,
      (htolerations _ _).mpr h.tolerations, (effective?_text_iff _ _).mpr h.priorityClassName,
      (effective?_text_iff _ _).mpr h.runtimeClassName,
      (effective?_text_iff _ _).mpr h.serviceAccountName,
      (effective?_bool_iff _ _).mpr h.hostNetwork, (effective?_bool_iff _ _).mpr h.hostPid,
      (hsecurity _ _).mpr h.securityContext, (effective?_volumes_iff _ _).mpr h.volumes,
      (effective?_containers_iff _ _).mpr h.initContainers,
      (effective?_containers_iff _ _).mpr h.containers⟩

/-! ## Decisions -/

theorem fingerprint_eq_iff (a b : DaemonSet) :
    fingerprint a = fingerprint b ↔
      Digest.ofText (fingerprintText a) = Digest.ofText (fingerprintText b) := by
  constructor
  · exact Digest.decimal_inj
  · intro h
    rw [fingerprint, fingerprint, h]

/-- Against the annotations of a stamped object, a desired object is skipped exactly if the two have
one fingerprint. -/
theorem decision_stamp_iff (a b : DaemonSet) :
    decision (fingerprint b) (stamp a).metadata.annotations = .skip ↔
      fingerprint a = fingerprint b := by
  have hkey : (stamp a).metadata.annotations.bind (·[fingerprintKey]?) = some (fingerprint a) := by
    simp [stamp, DaemonSet.annotate]
  rw [decision, hkey]
  by_cases h : fingerprint a = fingerprint b <;> simp [h]

/-- The text under the fingerprint is the same for two DaemonSets exactly if they agree in every
tracked field. So a desired object is skipped where it agrees with the one applied last, and
otherwise only where two different texts have one digest. -/
theorem fingerprint_sees_tracked_fields (a b : DaemonSet) :
    (fingerprintText a = fingerprintText b ↔ SameTracked a b) ∧
      (decision (fingerprint b) (stamp a).metadata.annotations = .skip ↔
        SameTracked a b ∨ fingerprintText a ≠ fingerprintText b ∧
          Digest.ofText (fingerprintText a) = Digest.ofText (fingerprintText b)) := by
  refine ⟨fingerprintText_eq_iff a b, ?_⟩
  rw [decision_stamp_iff, fingerprint_eq_iff, ← fingerprintText_eq_iff]
  by_cases h : fingerprintText a = fingerprintText b
  · simp [h]
  · simp [h]

end GpuFleet.Drift
