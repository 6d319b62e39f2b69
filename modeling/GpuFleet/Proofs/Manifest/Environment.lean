import GpuFleet.Manifest.Render

/-!
Environments in which settings are made one after another. The first variable of a name takes the
value given last, every other variable stays as it is at its place, and names that are not there are
added at the end, once each, in the order in which they are first mentioned. This says what the
environment is; so making the same settings again changes nothing.
-/
namespace GpuFleet.Manifest

open Kube (EnvVar)
open Policy (EnvSetting)

/-- The environment with settings made in turn. -/
def assign (settings : List EnvSetting) (env : List EnvVar) : List EnvVar :=
  settings.foldl (fun env s => setVariable s.name s.value env) env

/-- The value that is given last to a name. -/
def lastValue? (name : String) (settings : List EnvSetting) : Option String :=
  (settings.reverse.find? (·.name = name)).map (·.value)

def variableNames (env : List EnvVar) : List String := env.map (·.name)

/-- The names that have to be added, in the order in which they are first mentioned. -/
def addedNames (settings : List EnvSetting) (env : List EnvVar) : List String :=
  ((settings.map (·.name)).filter (· ∉ variableNames env)).eraseDups

/-- A variable before the place has the name. -/
def IsTaken (env : List EnvVar) (i : Nat) (name : String) : Prop :=
  ∃ j < i, ∃ e, env[j]? = some e ∧ e.name = name

/-- What an environment is after settings. -/
structure Assigned (settings : List EnvSetting) (before after : List EnvVar) : Prop where
  /-- The first variable of a name has the value given last, and takes it from nowhere else. -/
  first : ∀ name value, lastValue? name settings = some value →
    after.find? (·.name = name) = some ⟨name, some value, none⟩
  /-- The others stay as they are. -/
  kept : ∀ i e, before[i]? = some e → lastValue? e.name settings = none ∨ IsTaken before i e.name →
    after[i]? = some e
  names : variableNames after = variableNames before ++ addedNames settings before

/-! ## One setting -/

section Variable

variable (name value : String) (env : List EnvVar)

theorem find?_setVariable (name' : String) :
    (setVariable name value env).find? (·.name = name') =
      if name = name' then some ⟨name, some value, none⟩ else env.find? (·.name = name') := by
  induction env with
  | nil => by_cases h : name = name' <;> simp [setVariable, h]
  | cons e env ih =>
    unfold setVariable
    by_cases he : e.name = name
    · by_cases h : name = name' <;> simp [he, h]
    · rw [if_neg he]
      by_cases h : e.name = name'
      · have hne : name ≠ name' := fun heq => he (h.trans heq.symm)
        simp [h, hne]
      · simp [h, ih]

theorem variableNames_setVariable :
    variableNames (setVariable name value env) =
      if name ∈ variableNames env then variableNames env else variableNames env ++ [name] := by
  induction env with
  | nil => rfl
  | cons e env ih =>
    unfold setVariable
    by_cases he : e.name = name
    · simp [variableNames, he]
    · simp only [variableNames, List.map_cons, if_neg he] at ih ⊢
      rw [ih]
      by_cases h : name ∈ env.map (·.name) <;> simp [h, Ne.symm he]

/-- A variable of another name, and one that is not the first of its name, stay as they are. -/
theorem getElem?_setVariable {i : Nat} {e : EnvVar} (hi : env[i]? = some e)
    (h : e.name = name → IsTaken env i name) : (setVariable name value env)[i]? = some e := by
  induction env generalizing i with
  | nil => simp at hi
  | cons d env ih =>
    unfold setVariable
    cases i with
    | zero =>
      obtain rfl : d = e := by simpa using hi
      by_cases hd : d.name = name
      · obtain ⟨j, hj, -⟩ := h hd
        omega
      · simp [hd]
    | succ i =>
      rw [List.getElem?_cons_succ] at hi
      by_cases hd : d.name = name
      · simpa [hd] using hi
      · rw [if_neg hd, List.getElem?_cons_succ]
        refine ih hi fun he => ?_
        obtain ⟨j, hj, e', he', hname⟩ := h he
        cases j with
        | zero =>
          obtain rfl : d = e' := by simpa using he'
          exact absurd hname hd
        | succ j => exact ⟨j, by omega, e', by simpa using he', hname⟩

end Variable

/-! ## Settings in turn -/

theorem lastValue?_concat (settings : List EnvSetting) (s : EnvSetting) (name : String) :
    lastValue? name (settings ++ [s]) =
      if s.name = name then some s.value else lastValue? name settings := by
  rw [lastValue?, lastValue?, List.reverse_append, List.reverse_singleton, List.singleton_append]
  by_cases h : s.name = name <;> simp [h]

theorem addedNames_concat (settings : List EnvSetting) (s : EnvSetting) (env : List EnvVar) :
    addedNames (settings ++ [s]) env =
      if s.name ∈ variableNames env ++ addedNames settings env then addedNames settings env
      else addedNames settings env ++ [s.name] := by
  unfold addedNames
  rw [List.map_append, List.filter_append, List.eraseDups_append]
  by_cases hbefore : s.name ∈ variableNames env
  · simp [hbefore]
  · have hsingle : ([s].map (·.name)).filter (· ∉ variableNames env) = [s.name] := by simp [hbefore]
    simp only [hsingle, List.mem_append, List.mem_eraseDups, hbefore, false_or]
    generalize (settings.map (·.name)).filter (· ∉ variableNames env) = added
    by_cases hadded : s.name ∈ added <;> simp [List.removeAll, hadded, List.eraseDups_cons]

theorem IsTaken.of_names {env env' : List EnvVar} {added : List String} {i : Nat} {name : String}
    (h : IsTaken env i name) (hnames : variableNames env' = variableNames env ++ added) :
    IsTaken env' i name := by
  obtain ⟨j, hj, e, he, hname⟩ := h
  have hat : (variableNames env')[j]? = some name := by
    rw [hnames, List.getElem?_append_left]
    · simp [variableNames, he, hname]
    · simpa [variableNames] using (List.getElem?_eq_some_iff.mp he).1
  rw [variableNames, List.getElem?_map, Option.map_eq_some_iff] at hat
  obtain ⟨e', he', hname'⟩ := hat
  exact ⟨j, hj, e', he', hname'⟩

/-- One more setting. -/
theorem Assigned.concat {settings : List EnvSetting} {before after : List EnvVar}
    (h : Assigned settings before after) (s : EnvSetting) :
    Assigned (settings ++ [s]) before (setVariable s.name s.value after) where
  first name value hlast := by
    rw [lastValue?_concat] at hlast
    rw [find?_setVariable]
    by_cases hname : s.name = name
    · rw [if_pos hname] at hlast ⊢
      rw [hname, Option.some.inj hlast]
    · rw [if_neg hname] at hlast ⊢
      exact h.first name value hlast
  kept i e hi hfree := by
    rw [lastValue?_concat] at hfree
    have hlater : e.name = s.name → IsTaken before i e.name := by
      intro hname
      rcases hfree with hnone | htaken
      · rw [if_pos hname.symm] at hnone
        cases hnone
      · exact htaken
    refine getElem?_setVariable _ _ _ (h.kept i e hi ?_) fun hname => ?_
    · by_cases hname : e.name = s.name
      · exact .inr (hlater hname)
      · rwa [if_neg (Ne.symm hname)] at hfree
    · exact hname ▸ (hlater hname).of_names h.names
  names := by
    rw [variableNames_setVariable, h.names, addedNames_concat]
    split
    · rfl
    · rw [List.append_assoc]

theorem Assigned.nil (env : List EnvVar) : Assigned [] env env where
  first name value h := by cases h
  kept i e hi _ := hi
  names := by simp [addedNames]

theorem Assigned.assign {earlier : List EnvSetting} {before env : List EnvVar}
    (h : Assigned earlier before env) (settings : List EnvSetting) :
    Assigned (earlier ++ settings) before (assign settings env) := by
  induction settings generalizing earlier env with
  | nil => rwa [List.append_nil]
  | cons s settings ih =>
    have hrest := ih (h.concat s)
    rwa [List.append_assoc, List.singleton_append] at hrest

theorem assigned_assign (settings : List EnvSetting) (env : List EnvVar) :
    Assigned settings env (assign settings env) := (Assigned.nil env).assign settings

/-- The last value counts, in the place of the first variable of the name. -/
example :
    assign [⟨"A", "1"⟩, ⟨"B", "2"⟩, ⟨"A", "3"⟩]
        [⟨"B", none, some .null⟩, ⟨"C", some "0", none⟩, ⟨"B", some "kept", none⟩] =
      [⟨"B", some "2", none⟩, ⟨"C", some "0", none⟩, ⟨"B", some "kept", none⟩,
        ⟨"A", some "3", none⟩] := by
  decide

/-! ## The same settings again -/

/-- A variable that has a name first is the one that is found by it. -/
theorem find?_eq_of_not_isTaken {env : List EnvVar} {i : Nat} {e : EnvVar} (he : env[i]? = some e)
    (hfirst : ¬ IsTaken env i e.name) : env.find? (·.name = e.name) = some e := by
  obtain ⟨hi, hei⟩ := List.getElem?_eq_some_iff.mp he
  refine List.find?_eq_some_iff_getElem.mpr ⟨decide_eq_true rfl, i, hi, hei, fun j hj => ?_⟩
  rw [Bool.not_eq_true', decide_eq_false_iff_not]
  exact fun hname => hfirst ⟨j, hj, _, List.getElem?_eq_getElem (by omega), hname⟩

/-- Settings whose last values are there already change nothing. -/
theorem Assigned.eq_self {settings : List EnvSetting} {before after : List EnvVar}
    (h : Assigned settings before after)
    (hfirst : ∀ name value, lastValue? name settings = some value →
      before.find? (·.name = name) = some ⟨name, some value, none⟩)
    (hadded : addedNames settings before = []) : after = before := by
  have hnames : variableNames after = variableNames before := by
    rw [h.names, hadded, List.append_nil]
  refine List.ext_getElem? fun i => ?_
  cases hi : before[i]? with
  | none =>
    have hlength : after.length = before.length := by
      simpa [variableNames] using congrArg List.length hnames
    rw [List.getElem?_eq_none_iff] at hi ⊢
    omega
  | some e =>
    by_cases htaken : IsTaken before i e.name
    · exact h.kept i e hi (.inr htaken)
    cases hlast : lastValue? e.name settings with
    | none => exact h.kept i e hi (.inl hlast)
    | some value =>
      -- the place is the first of its name, before and after, and the value there is the last one
      have hat : (variableNames after)[i]? = some e.name := by rw [hnames]; simp [variableNames, hi]
      rw [variableNames, List.getElem?_map, Option.map_eq_some_iff] at hat
      obtain ⟨e', he', hname⟩ := hat
      have htaken' : ¬ IsTaken after i e'.name := fun htaken' => htaken <|
        hname ▸ htaken'.of_names (hnames.symm.trans (List.append_nil _).symm)
      have hbefore := (find?_eq_of_not_isTaken hi htaken).symm.trans (hfirst _ _ hlast)
      have hafter := (find?_eq_of_not_isTaken he' htaken').symm.trans (hname ▸ h.first _ _ hlast)
      rw [he', hafter, hbefore, hname]

/-- An environment after settings stays as it is under the same settings. -/
theorem assign_assign (settings : List EnvSetting) (env : List EnvVar) :
    assign settings (assign settings env) = assign settings env := by
  have h := assigned_assign settings env
  refine (assigned_assign settings (assign settings env)).eq_self h.first ?_
  have hnone : (settings.map (·.name)).filter (· ∉ variableNames (assign settings env)) = [] := by
    refine List.filter_eq_nil_iff.mpr fun name hname => ?_
    have hmem : name ∈ variableNames (assign settings env) := by
      rw [h.names, List.mem_append]
      by_cases hbefore : name ∈ variableNames env
      · exact .inl hbefore
      · refine .inr (List.mem_eraseDups.mpr (List.mem_filter.mpr ⟨hname, ?_⟩))
        exact decide_eq_true hbefore
    simpa using hmem
  rw [addedNames, hnone]
  rfl

end GpuFleet.Manifest
