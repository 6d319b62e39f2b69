import GpuFleet.Proofs.Manifest.Environment
import Mathlib.Data.List.Forall2
import Mathlib.Tactic.SplitIfs

/-!
What rendering does to a DaemonSet: it sets the namespace, two labels, the image of the main
container and variables of the containers, and nothing else. The runtime is told to every container,
whatever the manifest or the component say of that variable. Rendering again changes nothing.
-/
namespace GpuFleet.Manifest

open Kube (EnvVar Container DaemonSet DaemonSetSpec ObjectMeta PodSpec)
open Policy (EnvSetting)

namespace Context

/-- The image of the main container, if the component has one. -/
def image? (ctx : Context) : Option String := ctx.component.bind (·.imagePath)

/-- The variables of the component, for the main container. -/
def overrides (ctx : Context) : List EnvSetting := (ctx.component.bind (·.env)).getD []

def runtimeSetting (ctx : Context) : EnvSetting := ⟨runtimeVariable, ctx.runtime.name⟩

end Context

def environment (c : Container) : List EnvVar := c.env.getD []

/-- What a container becomes, given an image for it and the variables of its component. -/
structure RenderedContainer (ctx : Context) (image : Option String) (overrides : List EnvSetting)
    (c c' : Container) : Prop where
  image : c'.image = image.or c.image
  runtime : (environment c').find? (·.name = runtimeVariable) =
    some ⟨runtimeVariable, some ctx.runtime.name, none⟩
  override : ∀ name value, name ≠ runtimeVariable → lastValue? name overrides = some value →
    (environment c').find? (·.name = name) = some ⟨name, some value, none⟩
  /-- A variable that is not set, and one that is not the first of its name, stay as they are. -/
  kept : ∀ i e, (environment c)[i]? = some e →
    (e.name ≠ runtimeVariable ∧ lastValue? e.name overrides = none) ∨
      IsTaken (environment c) i e.name →
    (environment c')[i]? = some e
  /-- Names that are not there are added once each, as they are mentioned first. -/
  names : variableNames (environment c') = variableNames (environment c) ++
    ((overrides.map (·.name) ++ [runtimeVariable]).filter
      (· ∉ variableNames (environment c))).eraseDups
  other : { c' with image := c.image, env := c.env } = c

/-- The first item and the others are related each in their way. -/
inductive FirstAndRest {α : Type} (first rest : α → α → Prop) : List α → List α → Prop
  | nil : FirstAndRest first rest [] []
  | cons {a b : α} {as bs : List α} (hfirst : first a b) (hrest : List.Forall₂ rest as bs) :
    FirstAndRest first rest (a :: as) (b :: bs)

structure RenderedPod (ctx : Context) (pod pod' : PodSpec) : Prop where
  containers : FirstAndRest (RenderedContainer ctx ctx.image? ctx.overrides)
    (RenderedContainer ctx none []) pod.containers pod'.containers
  initContainers : Option.Rel (List.Forall₂ (RenderedContainer ctx none []))
    pod.initContainers pod'.initContainers
  other : { pod' with containers := pod.containers, initContainers := pod.initContainers } = pod

structure RenderedSpec (ctx : Context) (s s' : DaemonSetSpec) : Prop where
  pod : Option.Rel (RenderedPod ctx) s.template.spec s'.template.spec
  other : { s' with template := { s'.template with spec := s.template.spec } } = s

structure Rendered (o : Operand) (ctx : Context) (d d' : DaemonSet) : Prop where
  ns : d'.metadata.ns = some ctx.ns
  managedBy : d'.metadata.labelMap[managedByKey]? = some managedByValue
  operand : d'.metadata.labelMap[operandKey]? = some o.name
  labels : ∀ key, key ≠ managedByKey → key ≠ operandKey →
    d'.metadata.labelMap[key]? = d.metadata.labelMap[key]?
  otherMeta : { d'.metadata with ns := d.metadata.ns, labels := d.metadata.labels } = d.metadata
  spec : Option.Rel (RenderedSpec ctx) d.spec d'.spec
  other : { d' with metadata := d.metadata, spec := d.spec } = d

/-! ## Containers -/

/-- The container with an image and settings made. -/
def renderContainer (image : Option String) (settings : List EnvSetting) (c : Container) :
    Container :=
  { c with image := image.or c.image, env := some (assign settings (environment c)) }

theorem withVariable_foldl (settings : List EnvSetting) (s : EnvSetting) (c : Container) :
    withVariable s.name s.value
        (settings.foldl (fun c e => withVariable e.name e.value c) c) =
      renderContainer none (settings ++ [s]) c := by
  induction settings generalizing c with
  | nil => rfl
  | cons e settings ih =>
    rw [List.foldl_cons, ih]
    rfl

/-- The containers of a pod, the first of which is the main one. -/
def renderContainers (ctx : Context) : List Container → List Container
  | [] => []
  | c :: cs =>
    renderContainer ctx.image? (ctx.overrides ++ [ctx.runtimeSetting]) c ::
      cs.map (renderContainer none [ctx.runtimeSetting])

private theorem renderMain_eq {ctx : Context} {component : Policy.ComponentSpec}
    (h : ctx.component = some component) (c : Container) :
    renderContainer none [ctx.runtimeSetting] (withComponent component c) =
      renderContainer ctx.image? (ctx.overrides ++ [ctx.runtimeSetting]) c := by
  have hsettings := withVariable_foldl (component.env.getD []) ctx.runtimeSetting
  simp only [Context.overrides, Context.image?, h, Option.bind_some]
  cases himage : component.imagePath with
  | none =>
    simp only [withComponent, himage]
    exact hsettings c
  | some image =>
    simp only [withComponent, himage]
    exact hsettings { c with image := some image }

/-- What rendering makes of the pod, container by container. -/
theorem renderPod_eq (ctx : Context) (pod : PodSpec) :
    renderPod ctx pod =
      { pod with
        containers := renderContainers ctx pod.containers
        initContainers :=
          pod.initContainers.map (·.map (renderContainer none [ctx.runtimeSetting])) } := by
  have hside : withVariable runtimeVariable ctx.runtime.name =
      renderContainer none [ctx.runtimeSetting] := rfl
  simp only [renderPod, hside]
  congr 1
  cases hcomponent : ctx.component with
  | none =>
    cases pod.containers with
    | nil => rfl
    | cons c cs => simp [renderContainers, Context.image?, Context.overrides, hcomponent]
  | some component =>
    cases pod.containers with
    | nil => rfl
    | cons c cs => simp [renderContainers, mapFirst, renderMain_eq hcomponent]

theorem renderedContainer_renderContainer (ctx : Context) (image : Option String)
    (overrides : List EnvSetting) (c : Container) :
    RenderedContainer ctx image overrides c
      (renderContainer image (overrides ++ [ctx.runtimeSetting]) c) := by
  have h := assigned_assign (overrides ++ [ctx.runtimeSetting]) (environment c)
  have hlast : ∀ name, lastValue? name (overrides ++ [ctx.runtimeSetting]) =
      if runtimeVariable = name then some ctx.runtime.name else lastValue? name overrides :=
    lastValue?_concat overrides ctx.runtimeSetting
  exact {
    image := rfl
    runtime := h.first _ _ (by rw [hlast, if_pos rfl])
    override := fun name value hname hvalue =>
      h.first name value (by rw [hlast, if_neg (Ne.symm hname), hvalue])
    kept := fun i e hi hfree => h.kept i e hi <| hfree.imp_left fun ⟨hname, hnone⟩ => by
      rw [hlast, if_neg (Ne.symm hname), hnone]
    names := by
      rw [environment, renderContainer, Option.getD_some, h.names, addedNames, List.map_append]
      rfl
    other := rfl }

theorem renderContainer_renderContainer (image : Option String) (settings : List EnvSetting)
    (c : Container) :
    renderContainer image settings (renderContainer image settings c) =
      renderContainer image settings c := by
  have himage : image.or (image.or c.image) = image.or c.image := by cases image <;> rfl
  have henv := assign_assign settings (environment c)
  simp only [renderContainer, himage, environment, Option.getD_some] at henv ⊢
  rw [henv]

/-! ## Pods and DaemonSets -/

private theorem forall₂_renderContainer (ctx : Context) (cs : List Container) :
    List.Forall₂ (RenderedContainer ctx none []) cs
      (cs.map (renderContainer none [ctx.runtimeSetting])) :=
  List.forall₂_map_right_iff.mpr <| List.forall₂_same.mpr fun c _ =>
    renderedContainer_renderContainer ctx none [] c

theorem renderedPod_renderPod (ctx : Context) (pod : PodSpec) :
    RenderedPod ctx pod (renderPod ctx pod) := by
  rw [renderPod_eq]
  refine ⟨?_, ?_, rfl⟩
  · cases pod.containers with
    | nil => exact .nil
    | cons c cs =>
      exact .cons (renderedContainer_renderContainer ctx ctx.image? ctx.overrides c)
        (forall₂_renderContainer ctx cs)
  · cases pod.initContainers with
    | none => exact .none
    | some cs => exact .some (forall₂_renderContainer ctx cs)

theorem renderPod_renderPod (ctx : Context) (pod : PodSpec) :
    renderPod ctx (renderPod ctx pod) = renderPod ctx pod := by
  have hside : ∀ cs : List Container,
      (cs.map (renderContainer none [ctx.runtimeSetting])).map
        (renderContainer none [ctx.runtimeSetting]) =
      cs.map (renderContainer none [ctx.runtimeSetting]) := by
    intro cs
    rw [List.map_map]
    exact List.map_congr_left fun c _ => renderContainer_renderContainer _ _ c
  simp only [renderPod_eq]
  congr 1
  · cases pod.initContainers with
    | none => rfl
    | some cs => exact congrArg some (hside cs)
  · cases pod.containers with
    | nil => rfl
    | cons c cs =>
      simp only [renderContainers, renderContainer_renderContainer, hside]

private theorem managedByKey_ne : managedByKey ≠ operandKey := by decide

private theorem getElem?_labelMap_renderMeta (o : Operand) (ns : String) (m : ObjectMeta)
    (key : String) :
    (renderMeta o ns m).labelMap[key]? =
      if operandKey = key then some o.name
      else if managedByKey = key then some managedByValue else m.labelMap[key]? := by
  simp [renderMeta, ObjectMeta.labelMap, Std.ExtTreeMap.getElem?_insert]

theorem rendered_render (o : Operand) (ctx : Context) (d : DaemonSet) :
    Rendered o ctx d (render o ctx d) := by
  have hlabel := getElem?_labelMap_renderMeta o ctx.ns d.metadata
  exact {
    ns := rfl
    managedBy := (hlabel managedByKey).trans (by rw [if_neg managedByKey_ne.symm, if_pos rfl])
    operand := (hlabel operandKey).trans (if_pos rfl)
    labels := fun key hmanaged hoperand => (hlabel key).trans <| by
      rw [if_neg (Ne.symm hoperand), if_neg (Ne.symm hmanaged)]
    otherMeta := rfl
    spec := by
      obtain ⟨m, spec, rest⟩ := d
      cases spec with
      | none => exact .none
      | some s =>
        refine .some ⟨?_, rfl⟩
        obtain ⟨strategy, ⟨templateMeta, pod⟩, specRest⟩ := s
        cases pod with
        | none => exact .none
        | some pod => exact .some (renderedPod_renderPod ctx pod)
    other := rfl }

theorem renderMeta_renderMeta (o : Operand) (ns : String) (m : ObjectMeta) :
    renderMeta o ns (renderMeta o ns m) = renderMeta o ns m := by
  have hlabels : ((renderMeta o ns m).labelMap.insert managedByKey managedByValue).insert
      operandKey o.name = (renderMeta o ns m).labelMap := by
    refine Std.ExtTreeMap.ext_getElem? fun key => ?_
    simp only [Std.ExtTreeMap.getElem?_insert, Std.compare_eq_iff_eq,
      getElem?_labelMap_renderMeta]
    split_ifs <;> rfl
  rw [renderMeta, hlabels]
  rfl

theorem mapPod_mapPod {f : PodSpec → PodSpec} (hf : ∀ pod, f (f pod) = f pod) (d : DaemonSet) :
    (d.mapPod f).mapPod f = d.mapPod f := by
  obtain ⟨m, spec, rest⟩ := d
  cases spec with
  | none => rfl
  | some s =>
    obtain ⟨strategy, ⟨templateMeta, pod⟩, specRest⟩ := s
    cases pod with
    | none => rfl
    | some pod => simp only [DaemonSet.mapPod, Option.map_some, hf]

theorem render_render (o : Operand) (ctx : Context) (d : DaemonSet) :
    render o ctx (render o ctx d) = render o ctx d := by
  have hpod := mapPod_mapPod (renderPod_renderPod ctx)
    { d with metadata := renderMeta o ctx.ns d.metadata }
  change DaemonSet.mapPod (renderPod ctx) { render o ctx d with
    metadata := renderMeta o ctx.ns (renderMeta o ctx.ns d.metadata) } = _
  rw [renderMeta_renderMeta]
  exact hpod

/-- Rendering sets the namespace, the two labels of the operator, the image and the variables of the
component in the main container, and the runtime in every container; nothing else changes. Rendered
again in the same way, a DaemonSet stays as it is. -/
theorem render_sets_only (o : Operand) (ctx : Context) (d : DaemonSet) :
    Rendered o ctx d (render o ctx d) ∧ render o ctx (render o ctx d) = render o ctx d :=
  ⟨rendered_render o ctx d, render_render o ctx d⟩

end GpuFleet.Manifest
