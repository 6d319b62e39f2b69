import GpuFleet.Proofs.Drift.Agreement

/-!
Empty values in place of absent ones. A list, map or object that is empty says the same as none, and
the fingerprint keeps to that everywhere except at five fields of containers, whose values it takes
as they are: command, arguments, ports, resources and security context.
-/
namespace GpuFleet.Drift

open Kube (DaemonSet Container ObjectMeta PodSpec Part)

/-- A tracked list or object of a container. -/
inductive ContainerField where
  | command
  | args
  | env
  | ports
  | volumeMounts
  | resources
  | securityContext
deriving DecidableEq, Repr

/-- A tracked list, map or object of a DaemonSet. -/
inductive Place where
  | labels
  | updateStrategy
  | templateLabels
  | templateAnnotations
  | nodeSelector
  | affinity
  | tolerations
  | podSecurityContext
  | volumes
  | initContainers
  /-- A field of the init container, or of the container, with an index. -/
  | container (init : Bool) (index : Nat) (field : ContainerField)
deriving DecidableEq, Repr

/-- An object without members, at a shape that requires none. -/
def emptyPart (s : Kube.Shape) (h : s.normal? (.object []) = some (.object [])) : Part s :=
  ⟨.object [], .object [], h⟩

/-- The value, or the empty one in place of an absent value. -/
def orEmpty {α : Type} (empty : α) (o : Option α) : Option α := o.or (some empty)

namespace ContainerField

/-- The container with the empty value at the field, if the field is absent. -/
def fill (c : Container) : ContainerField → Container
  | command => { c with command := orEmpty [] c.command }
  | args => { c with args := orEmpty [] c.args }
  | env => { c with env := orEmpty [] c.env }
  | ports => { c with ports := orEmpty [] c.ports }
  | volumeMounts => { c with volumeMounts := orEmpty [] c.volumeMounts }
  | resources => { c with resources := orEmpty (emptyPart _ rfl) c.resources }
  | securityContext => { c with securityContext := orEmpty (emptyPart _ rfl) c.securityContext }

/-- Whether the projection of containers takes empty for absent at the field. -/
def isExtracted : ContainerField → Bool
  | env | volumeMounts => true
  | command | args | ports | resources | securityContext => false

end ContainerField

namespace Place

/-- The pod with one of its containers put through `f`. -/
def mapContainer (init : Bool) (index : Nat) (f : Container → Container) (p : PodSpec) : PodSpec :=
  match init with
  | true => { p with initContainers := p.initContainers.map (·.modify index f) }
  | false => { p with containers := p.containers.modify index f }

/-- The DaemonSet with the metadata of its pod template, if there is any, put through `f`. -/
def mapTemplateMeta (f : ObjectMeta → ObjectMeta) (d : DaemonSet) : DaemonSet :=
  { d with
    spec := d.spec.map fun s =>
      { s with template := { s.template with metadata := s.template.metadata.map f } } }

/-- The DaemonSet with the empty value at the place, if there is nothing at the place but what holds
it is there. -/
def fill (d : DaemonSet) : Place → DaemonSet
  | labels => { d with metadata := { d.metadata with labels := orEmpty ∅ d.metadata.labels } }
  | updateStrategy =>
    { d with
      spec := d.spec.map fun s =>
        { s with updateStrategy := orEmpty (emptyPart _ rfl) s.updateStrategy } }
  | templateLabels => d |> mapTemplateMeta fun m => { m with labels := orEmpty ∅ m.labels }
  | templateAnnotations =>
    d |> mapTemplateMeta fun m => { m with annotations := orEmpty ∅ m.annotations }
  | nodeSelector => d.mapPod fun p => { p with nodeSelector := orEmpty ∅ p.nodeSelector }
  | affinity => d.mapPod fun p => { p with affinity := orEmpty (emptyPart _ rfl) p.affinity }
  | tolerations => d.mapPod fun p => { p with tolerations := orEmpty [] p.tolerations }
  | podSecurityContext =>
    d.mapPod fun p => { p with securityContext := orEmpty (emptyPart _ rfl) p.securityContext }
  | volumes => d.mapPod fun p => { p with volumes := orEmpty [] p.volumes }
  | initContainers => d.mapPod fun p => { p with initContainers := orEmpty [] p.initContainers }
  | container init index field => d.mapPod (mapContainer init index field.fill)

/-- Whether empty counts as absent at the place. -/
def isCovered : Place → Bool
  | container _ _ field => field.isExtracted
  | labels | updateStrategy | templateLabels | templateAnnotations | nodeSelector | affinity
  | tolerations | podSecurityContext | volumes | initContainers => true

end Place

/-! ## Containers -/

private theorem SameContainer.refl (c : Container) : SameContainer c c :=
  ⟨rfl, rfl, rfl, rfl, rfl, .refl _, rfl, fun _ _ => rfl, rfl, rfl⟩

private theorem getD_orEmpty {α : Type} (empty : α) (o : Option α) :
    (orEmpty empty o).getD empty = o.getD empty := by
  cases o <;> rfl

private theorem said_orEmpty {s : Kube.Shape} (h : s.normal? (.object []) = some (.object []))
    (p : Option (Part s)) : said (orEmpty (emptyPart s h) p) = said p := by
  cases p <;> rfl

theorem ContainerField.same_fill_iff (field : ContainerField) (c : Container) :
    SameContainer (field.fill c) c ↔ field.fill c = c ∨ field.isExtracted = true := by
  constructor
  · intro h
    cases field with
    | command => exact .inl (congrArg (fun o => { c with command := o }) h.command)
    | args => exact .inl (congrArg (fun o => { c with args := o }) h.args)
    | ports => exact .inl (congrArg (fun o => { c with ports := o }) h.ports)
    | resources => exact .inl (congrArg (fun o => { c with resources := o }) h.resources)
    | securityContext =>
      exact .inl (congrArg (fun o => { c with securityContext := o }) h.securityContext)
    | env | volumeMounts => exact .inr rfl
  · rintro (h | h)
    · rw [h]
      exact .refl c
    · cases field with
      | env =>
        have henv : (orEmpty [] c.env).getD [] = c.env.getD [] := getD_orEmpty ..
        exact { SameContainer.refl c with env := .of_eq (congrArg directEntries henv) }
      | volumeMounts =>
        have hmounts : mountsAt (orEmpty [] c.volumeMounts) = mountsAt c.volumeMounts := by
          unfold mountsAt
          rw [getD_orEmpty]
        exact { SameContainer.refl c with
          volumeMounts := fun name path => congrFun (congrFun hmounts name) path }
      | _ => cases h

/-- One container put through `f` agrees with the old one exactly if all containers do. -/
private theorem same_modify_iff (f : Container → Container) {p : Prop}
    (hf : ∀ c, SameContainer (f c) c ↔ f c = c ∨ p) (cs : List Container) (index : Nat) :
    List.Forall₂ SameContainer (cs.modify index f) cs ↔ cs.modify index f = cs ∨ p := by
  have hrefl : ∀ ds : List Container, List.Forall₂ SameContainer ds ds :=
    fun ds => List.forall₂_same.mpr fun c _ => .refl c
  induction cs generalizing index with
  | nil => simp
  | cons c cs ih =>
    cases index with
    | zero =>
      rw [List.modify_zero_cons, List.forall₂_cons, hf, List.cons.injEq,
        and_iff_left (hrefl cs), and_iff_left rfl]
    | succ index =>
      rw [List.modify_succ_cons, List.forall₂_cons, List.cons.injEq,
        and_iff_right (SameContainer.refl c), and_iff_right rfl]
      exact ih index

/-! ## DaemonSets -/

private theorem SameTracked.refl (d : DaemonSet) : SameTracked d d where
  name := rfl
  ns := rfl
  labels := rfl
  updateStrategy := rfl
  templateLabels := rfl
  templateAnnotations := rfl
  nodeSelector := rfl
  affinity := rfl
  tolerations := rfl
  priorityClassName := rfl
  runtimeClassName := rfl
  serviceAccountName := rfl
  hostNetwork := rfl
  hostPid := rfl
  securityContext := rfl
  volumes := fun _ => rfl
  initContainers := List.forall₂_same.mpr fun c _ => .refl c
  containers := List.forall₂_same.mpr fun c _ => .refl c

private theorem same_of_eq {cs ds : List Container} (h : cs = ds) :
    List.Forall₂ SameContainer cs ds :=
  h ▸ List.forall₂_same.mpr fun c _ => .refl c

/-- Without a pod nothing changes, so that only DaemonSets with a pod have to be looked at. -/
private theorem sameTracked_mapPod {f : PodSpec → PodSpec}
    (h : ∀ objectMeta strategy templateMeta pod specRest rest,
      SameTracked ⟨objectMeta, some ⟨strategy, ⟨templateMeta, some (f pod)⟩, specRest⟩, rest⟩
        ⟨objectMeta, some ⟨strategy, ⟨templateMeta, some pod⟩, specRest⟩, rest⟩)
    (d : DaemonSet) : SameTracked (d.mapPod f) d := by
  match d with
  | ⟨_, none, _⟩ | ⟨_, some ⟨_, ⟨_, none⟩, _⟩, _⟩ => exact .refl _
  | ⟨_, some ⟨_, ⟨_, some pod⟩, _⟩, _⟩ => exact h _ _ _ pod _ _

private theorem sameTracked_mapTemplateMeta {f : Kube.ObjectMeta → Kube.ObjectMeta}
    (h : ∀ objectMeta strategy templateMeta pod specRest rest,
      SameTracked ⟨objectMeta, some ⟨strategy, ⟨some (f templateMeta), pod⟩, specRest⟩, rest⟩
        ⟨objectMeta, some ⟨strategy, ⟨some templateMeta, pod⟩, specRest⟩, rest⟩)
    (d : DaemonSet) : SameTracked (Place.mapTemplateMeta f d) d := by
  match d with
  | ⟨_, none, _⟩ | ⟨_, some ⟨_, ⟨none, _⟩, _⟩, _⟩ => exact .refl _
  | ⟨_, some ⟨_, ⟨some templateMeta, _⟩, _⟩, _⟩ => exact h _ _ templateMeta _ _ _

private theorem sameTracked_mapContainer_iff {f : Container → Container} {p : Prop}
    (hf : ∀ c, SameContainer (f c) c ↔ f c = c ∨ p) (init : Bool) (index : Nat) (d : DaemonSet) :
    SameTracked (d.mapPod (Place.mapContainer init index f)) d ↔
      d.mapPod (Place.mapContainer init index f) = d ∨ p := by
  constructor
  · intro h
    match d, init with
    | ⟨_, none, _⟩, _ | ⟨_, some ⟨_, ⟨_, none⟩, _⟩, _⟩, _ => exact .inl rfl
    | ⟨objectMeta, some ⟨strategy, ⟨templateMeta, some pod⟩, specRest⟩, rest⟩, false =>
      refine ((same_modify_iff f hf pod.containers index).mp h.containers).imp_left fun heq => ?_
      simp only [DaemonSet.mapPod, Place.mapContainer, Option.map_some, heq]
    | ⟨objectMeta, some ⟨strategy, ⟨templateMeta, some pod⟩, specRest⟩, rest⟩, true =>
      have hinit := h.initContainers
      simp only [DaemonSet.mapPod, Place.mapContainer, Option.map_some] at hinit ⊢
      cases hcs : pod.initContainers with
      | none =>
        rw [Option.map_none, ← hcs]
        exact .inl rfl
      | some cs =>
        have hcontainers : List.Forall₂ SameContainer (cs.modify index f) cs := by
          simpa only [initContainers, pod?, hcs, Option.map_some, Option.bind_some,
            Option.getD_some] using hinit
        refine ((same_modify_iff f hf cs index).mp hcontainers).imp_left fun heq => ?_
        rw [Option.map_some, heq, ← hcs]
  · rintro (h | h)
    · rw [h]
      exact .refl d
    · have hsame := fun cs => (same_modify_iff f hf cs index).mpr (.inr h)
      refine sameTracked_mapPod (fun _ _ _ pod _ _ => ?_) d
      cases init with
      | false => exact { SameTracked.refl _ with containers := hsame pod.containers }
      | true =>
        have hinit : List.Forall₂ SameContainer
            ((pod.initContainers.map (·.modify index f)).getD []) (pod.initContainers.getD []) := by
          cases pod.initContainers with
          | none => exact .nil
          | some cs => exact hsame cs
        exact { SameTracked.refl _ with initContainers := hinit }

theorem sameTracked_fill_iff (p : Place) (d : DaemonSet) :
    SameTracked (p.fill d) d ↔ p.fill d = d ∨ p.isCovered = true := by
  cases p with
  | container init index field =>
    exact sameTracked_mapContainer_iff field.same_fill_iff init index d
  | labels =>
    refine iff_of_true ?_ (.inr rfl)
    exact { SameTracked.refl d with labels := getD_orEmpty .. }
  | updateStrategy =>
    refine iff_of_true ?_ (.inr rfl)
    match d with
    | ⟨_, none, _⟩ => exact .refl _
    | ⟨_, some _, _⟩ =>
      exact { SameTracked.refl _ with updateStrategy := said_orEmpty .. }
  | templateLabels =>
    refine iff_of_true (sameTracked_mapTemplateMeta (fun _ _ _ _ _ _ => ?_) d) (.inr rfl)
    exact { SameTracked.refl _ with templateLabels := getD_orEmpty .. }
  | templateAnnotations =>
    refine iff_of_true (sameTracked_mapTemplateMeta (fun _ _ _ _ _ _ => ?_) d) (.inr rfl)
    exact { SameTracked.refl _ with
      templateAnnotations := getD_orEmpty .. }
  | nodeSelector =>
    refine iff_of_true (sameTracked_mapPod (fun _ _ _ _ _ _ => ?_) d) (.inr rfl)
    exact { SameTracked.refl _ with nodeSelector := getD_orEmpty .. }
  | affinity =>
    refine iff_of_true (sameTracked_mapPod (fun _ _ _ _ _ _ => ?_) d) (.inr rfl)
    exact { SameTracked.refl _ with affinity := said_orEmpty .. }
  | tolerations =>
    refine iff_of_true (sameTracked_mapPod (fun _ _ _ _ _ _ => ?_) d) (.inr rfl)
    exact { SameTracked.refl _ with tolerations := getD_orEmpty .. }
  | podSecurityContext =>
    refine iff_of_true (sameTracked_mapPod (fun _ _ _ _ _ _ => ?_) d) (.inr rfl)
    exact { SameTracked.refl _ with securityContext := said_orEmpty .. }
  | volumes =>
    refine iff_of_true (sameTracked_mapPod (fun _ _ _ pod _ _ => ?_) d) (.inr rfl)
    have hvolumes : origins (orEmpty [] pod.volumes) = origins pod.volumes := by
      unfold origins
      rw [getD_orEmpty]
    exact { SameTracked.refl _ with volumes := congrFun hvolumes }
  | initContainers =>
    refine iff_of_true (sameTracked_mapPod (fun _ _ _ pod _ _ => ?_) d) (.inr rfl)
    exact { SameTracked.refl _ with initContainers := same_of_eq (getD_orEmpty ..) }

/-- The empty value at a place leaves the text under the fingerprint as it is exactly if something
is there already, or empty counts as absent at the place. Then, and otherwise only where two
different texts have one digest, the object filled in is skipped against the annotations of the old
one. -/
theorem fingerprint_fill (p : Place) (d : DaemonSet) :
    (fingerprintText (p.fill d) = fingerprintText d ↔ p.fill d = d ∨ p.isCovered = true) ∧
      (decision (fingerprint (p.fill d)) (stamp d).metadata.annotations = .skip ↔
        (p.fill d = d ∨ p.isCovered = true) ∨
          fingerprintText (p.fill d) ≠ fingerprintText d ∧
            Digest.ofText (fingerprintText (p.fill d)) = Digest.ofText (fingerprintText d)) := by
  have htext : fingerprintText (p.fill d) = fingerprintText d ↔
      p.fill d = d ∨ p.isCovered = true := by
    rw [fingerprintText_eq_iff, sameTracked_fill_iff]
  refine ⟨htext, ?_⟩
  rw [decision_stamp_iff, eq_comm, fingerprint_eq_iff, ← htext]
  by_cases h : fingerprintText (p.fill d) = fingerprintText d <;> simp [h]

example :
    let d : DaemonSet :=
      { spec := some { template := { spec := some { containers := [{ name := "main" }] } } } }
    fingerprintText ((Place.container false 0 .env).fill d) = fingerprintText d ∧
      fingerprintText ((Place.container false 0 .command).fill d) ≠ fingerprintText d := by
  simp only [ne_eq, fingerprintText_eq_iff, sameTracked_fill_iff]
  decide

end GpuFleet.Drift
