import GpuFleet.Drift.Projection
import GpuFleet.Proofs.Kube.Labels
import GpuFleet.Proofs.Kube.NormalForm

/-!
The writers of tracked facts are faithful: what they write has a canonical text that belongs to one
fact only. A record is faithful because each of its fields can be taken from the text, a part of a
typed object because it is in normal form.
-/
namespace GpuFleet

namespace Json

/-- Things of one canonical text are equal. -/
def Faithful {α : Type} (write : α → Json) : Prop :=
  ∀ ⦃a b : α⦄, (write a).canonical = (write b).canonical → a = b

variable {α : Type} {write : α → Json}

theorem faithful_string : Faithful Json.string := by
  intro s t h
  cases eq_of_canonical_eq rfl rfl h
  rfl

theorem faithful_bool : Faithful Json.bool := by
  intro a b h
  cases eq_of_canonical_eq rfl rfl h
  rfl

theorem Faithful.list (hwrite : Faithful write) :
    Faithful fun as : List α => .array (as.map write) := by
  intro as bs h
  have hitems := canonical_array_iff.mp h
  rw [List.forall₂_map_left_iff, List.forall₂_map_right_iff] at hitems
  exact List.forall₂_eq_eq_eq ▸ hitems.imp fun a b hab => hwrite hab

theorem string_ne_null (s : String) : string s ≠ .null := by
  intro h
  cases h

theorem array_ne_null (items : List Json) : array items ≠ .null := by
  intro h
  cases h

/-- The value of a member can be told from the canonical text of the object. -/
theorem member_canonical_eq {ms ns : Members} (h : (object ms).canonical = (object ns).canonical)
    (key : String) {v w : Json} (hv : ms.lookup key = some v) (hw : ns.lookup key = some w) :
    v.canonical = w.canonical := by
  have hkey := canonical_object_iff.mp h key
  rw [hv, hw] at hkey
  exact Option.some.inj hkey

end Json

namespace Kube

open Json (Faithful)

theorem faithful_labels : Faithful Labels.toJson := by
  intro a b h
  refine Std.ExtTreeMap.ext_getElem? fun key => ?_
  have hkey := Json.canonical_object_iff.mp h key
  rw [Labels.lookup_toJson, Labels.lookup_toJson] at hkey
  cases ha : a[key]? with
  | none => cases hb : b[key]? with
    | none => rfl
    | some t => simp [ha, hb] at hkey
  | some s => cases hb : b[key]? with
    | none => simp [ha, hb] at hkey
    | some t =>
      simp only [ha, hb, Option.map_some, Option.some.injEq] at hkey
      rw [Json.faithful_string hkey]

theorem faithful_texts : Faithful textsToJson := Json.faithful_string.list

/-- A part at a closed shape is told from every other one by its canonical text. -/
theorem Part.faithful {s : Shape} (hs : s.isClosed = true) : Faithful (@Part.json s) := by
  rintro ⟨v, hv⟩ ⟨w, hw⟩ h
  cases Shape.isNormal_unique s hs (.inl hv) (.inl hw) h
  rfl

theorem Part.json_ne_null {fields : List Field} (p : Part (.record fields)) : p.json ≠ .null := by
  obtain ⟨v, hv⟩ := p
  obtain ⟨members, rfl, -⟩ := Shape.isNormal_record (.inl hv)
  exact nofun

theorem Part.listToJson_faithful {s : Shape} (hs : s.isClosed = true) :
    Faithful (@Part.listToJson s) := (Part.faithful hs).list

end Kube

namespace Drift

open Json (Faithful faithful_string faithful_bool member_canonical_eq)
open Kube (Part)

theorem orNull_faithful {α : Type} {write : α → Json} (hwrite : Faithful write)
    (hnull : ∀ a, write a ≠ .null) : Faithful (orNull write) := by
  intro a b h
  cases a with
  | none => cases b with
    | none => rfl
    | some b => exact absurd (Json.eq_null_of_canonical_eq h.symm) (hnull b)
  | some a => cases b with
    | none => exact absurd (Json.eq_null_of_canonical_eq h) (hnull a)
    | some b => rw [hwrite h]

theorem EnvEntry.faithful : Faithful EnvEntry.toJson := by
  rintro ⟨name, value⟩ ⟨name', value'⟩ h
  cases faithful_string (member_canonical_eq h "name" rfl rfl)
  cases faithful_string (member_canonical_eq h "value" rfl rfl)
  rfl

theorem MountEntry.faithful : Faithful MountEntry.toJson := by
  rintro ⟨name, path, sub, readOnly⟩ ⟨name', path', sub', readOnly'⟩ h
  cases faithful_string (member_canonical_eq h "name" rfl rfl)
  cases faithful_string (member_canonical_eq h "mountPath" rfl rfl)
  cases faithful_string (member_canonical_eq h "subPath" rfl rfl)
  cases faithful_bool (member_canonical_eq h "readOnly" rfl rfl)
  rfl

private theorem option_string_eq {s t : Option String}
    (h : (s.map Json.string).map Json.canonical = (t.map Json.string).map Json.canonical) :
    s = t := by
  cases s with
  | none => cases t with
    | none => rfl
    | some t => cases h
  | some s => cases t with
    | none => cases h
    | some t => rw [faithful_string (Option.some.inj h)]

private theorem VolumeEntry.lookup_members (v : VolumeEntry) :
    let members : Members := ("name", .string v.name) :: Members.put? "hostPath" .string v.hostPath
      ++ Members.put? "configMapName" .string v.configMapName
      ++ Members.put? "secretName" .string v.secretName
    members.lookup "hostPath" = v.hostPath.map Json.string ∧
      members.lookup "configMapName" = v.configMapName.map Json.string ∧
      members.lookup "secretName" = v.secretName.map Json.string := by
  obtain ⟨name, hostPath, configMap, secret⟩ := v
  cases hostPath <;> cases configMap <;> cases secret <;> exact ⟨rfl, rfl, rfl⟩

theorem VolumeEntry.faithful : Faithful VolumeEntry.toJson := by
  intro v w h
  have hname := faithful_string (member_canonical_eq h "name" rfl rfl)
  obtain ⟨hhost, hconfig, hsecret⟩ := v.lookup_members
  obtain ⟨hhost', hconfig', hsecret'⟩ := w.lookup_members
  have hmember := Json.canonical_object_iff.mp h
  have hhostPath := hmember "hostPath"
  have hconfigMap := hmember "configMapName"
  have hsecretName := hmember "secretName"
  rw [hhost, hhost'] at hhostPath
  rw [hconfig, hconfig'] at hconfigMap
  rw [hsecret, hsecret'] at hsecretName
  cases v
  cases w
  rw [VolumeEntry.mk.injEq]
  exact ⟨hname, option_string_eq hhostPath, option_string_eq hconfigMap,
    option_string_eq hsecretName⟩

theorem ContainerFacts.faithful : Faithful ContainerFacts.toJson := by
  intro a b h
  have hname := faithful_string (member_canonical_eq h "name" rfl rfl)
  have htext := orNull_faithful faithful_string Json.string_ne_null
  have htexts := orNull_faithful Kube.faithful_texts fun _ => Json.array_ne_null _
  have himage := htext (member_canonical_eq h "image" rfl rfl)
  have hpolicy := htext (member_canonical_eq h "imagePullPolicy" rfl rfl)
  have hcommand := htexts (member_canonical_eq h "command" rfl rfl)
  have hargs := htexts (member_canonical_eq h "args" rfl rfl)
  have henv := orNull_faithful EnvEntry.faithful.list (fun _ => Json.array_ne_null _)
    (member_canonical_eq h "env" rfl rfl)
  have hports := orNull_faithful (Part.listToJson_faithful (by decide))
    (fun _ => Json.array_ne_null _) (member_canonical_eq h "ports" rfl rfl)
  have hmounts := orNull_faithful MountEntry.faithful.list (fun _ => Json.array_ne_null _)
    (member_canonical_eq h "volumeMounts" rfl rfl)
  have hresources := orNull_faithful (Part.faithful (by decide)) Part.json_ne_null
    (member_canonical_eq h "resources" rfl rfl)
  have hsecurity := orNull_faithful (Part.faithful (by decide)) Part.json_ne_null
    (member_canonical_eq h "securityContext" rfl rfl)
  cases a
  cases b
  rw [ContainerFacts.mk.injEq]
  exact ⟨hname, himage, hpolicy, hcommand, hargs, henv, hports, hmounts, hresources, hsecurity⟩

end Drift

end GpuFleet
