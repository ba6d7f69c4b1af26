import ApiReference.Proofs.Settings.Scalars
import ApiReference.Proofs.Text.Split

/-!
# Overrides by Variables

Each scalar has one variable that overrides it, and a variable touches nothing else.  So what an
environment does is said scalar by scalar, and the order of its variables does not matter.
-/

namespace ApiReference.Settings

open Decode Text Toml

/-! ## Setting scalars -/

namespace Scalar

/-- The name of a scalar's variable: a beginning, the section and the key in upper case, with two
underscores between them. -/
def variableName (scalar : Scalar) (beginning : String) : String :=
  beginning ++ "__" ++ scalar.name

/-- A variable is called after the part and the key of its field. -/
theorem name_eq : ∀ scalar ∈ scalars,
    scalar.name = upper scalar.part.name ++ "__" ++ upper scalar.field.key := by
  simp only [scalars, List.forall_mem_cons]
  decide +kernel

theorem nodup_names : (scalars.map Scalar.name).Nodup := by
  simp [scalars]

theorem get_set {scalar : Scalar} (hscalar : scalar ∈ scalars) (value : scalar.field.Kind)
    (settings : Settings) : scalar.get (scalar.set value settings) = value := by
  obtain ⟨hpart, hfield⟩ := scalars_mem_parts scalar hscalar
  rw [get, set, Part.get_set hpart]
  exact (parts_consist _ hpart).get_set scalar.field hfield value _

/-- A scalar with another name stays as it was: it is in another section, or has another key. -/
theorem get_set_of_ne {scalar other : Scalar} (hscalar : scalar ∈ scalars)
    (hother : other ∈ scalars) (hne : scalar.name ≠ other.name) (value : other.field.Kind)
    (settings : Settings) : scalar.get (other.set value settings) = scalar.get settings := by
  obtain ⟨hpart, hfield⟩ := scalars_mem_parts scalar hscalar
  obtain ⟨hotherPart, hotherField⟩ := scalars_mem_parts other hother
  rw [name_eq scalar hscalar, name_eq other hother] at hne
  -- with the same section the key has to differ, and then the frame is that of the section's record
  by_cases hsection : scalar.part.name = other.part.name
  · have hkey : scalar.field.key ≠ other.field.key := fun hkey ↦ hne (by rw [hsection, hkey])
    have hsame := Part.eq_of_name_eq hpart hotherPart hsection
    obtain ⟨part, field, _, _, _⟩ := scalar
    obtain ⟨otherPart, otherField, _, _, _⟩ := other
    obtain rfl : part = otherPart := hsame
    rw [get, set, Part.get_set hpart]
    exact (parts_consist _ hpart).get_set_of_ne field hfield otherField hotherField hkey value _
  · rw [get, set, Part.get_set_of_ne hpart hotherPart hsection]
    rfl

theorem documents_set : ∀ scalar ∈ scalars, ∀ (value : scalar.field.Kind) (settings : Settings),
    (scalar.set value settings).viewer.documents = settings.viewer.documents := by
  simp [scalars, set]

end Scalar

/-- Settings are made of their scalars and the documents. -/
theorem eq_of_scalars {settings other : Settings}
    (hscalars : ∀ scalar ∈ scalars, scalar.get settings = scalar.get other)
    (hdocuments : settings.viewer.documents = other.viewer.documents) : settings = other := by
  obtain ⟨⟨_, _, _⟩, ⟨_, _, _, _, _, _, _, _⟩, ⟨_, _, _, _, _⟩⟩ := settings
  obtain ⟨⟨_, _, _⟩, ⟨_, _, _, _, _, _, _, _⟩, ⟨_, _, _, _, _⟩⟩ := other
  simp only [scalars, List.forall_mem_cons, Scalar.get] at hscalars
  simp_all

/-! ## Names of variables -/

/-- A variable is scoped if its name is the beginning, two underscores and a key. -/
theorem isScoped_iff {beginning name : String} :
    isScoped beginning name = true ↔
      ∃ key, name.toList = beginning.toList ++ '_' :: '_' :: key := by
  rw [isScoped, List.isPrefixOf_iff_prefix, String.toList_append]
  constructor
  · rintro ⟨key, hkey⟩
    exact ⟨key, by simpa using hkey.symm⟩
  · rintro ⟨key, hkey⟩
    exact ⟨key, by simpa using hkey.symm⟩

theorem key?_eq_some {beginning name : String} {key : List Char}
    (h : name.toList = beginning.toList ++ '_' :: '_' :: key) : key? beginning name = some key := by
  rw [key?, h, dropBeginning?_append]
  exact dropBeginning?_append ['_', '_'] key

theorem Scalar.toList_variableName (scalar : Scalar) (beginning : String) :
    (scalar.variableName beginning).toList =
      beginning.toList ++ '_' :: '_' :: scalar.name.toList := by
  simp [Scalar.variableName]

namespace Override

/-- The name of a scalar leads to its override. -/
theorem find?_of_mem {scalar : Scalar} (hscalar : scalar ∈ scalars) :
    find? (splitPaired '_' scalar.name.toList) = some scalar.override := by
  have hsome : (find? (splitPaired '_' scalar.name.toList)).isSome := by
    rw [find?, all_overrides, List.find?_isSome]
    exact ⟨scalar.override, List.mem_map_of_mem hscalar, beq_self_eq_true _⟩
  obtain ⟨override, hoverride⟩ := Option.isSome_iff_exists.mp hsome
  rw [hoverride]
  rw [find?, all_overrides] at hoverride
  obtain ⟨other, hother, rfl⟩ := List.mem_map.mp (List.mem_of_find?_eq_some hoverride)
  have hname : other.name = scalar.name := by
    have hparts := List.find?_some hoverride
    exact String.toList_injective (splitPaired_injective '_' (beq_iff_eq.mp hparts))
  rw [List.inj_on_of_nodup_map Scalar.nodup_names hother hscalar hname]

/-- No other key overrides anything. -/
theorem find?_of_ne {key : List Char} (h : ∀ scalar ∈ scalars, scalar.name.toList ≠ key) :
    find? (splitPaired '_' key) = none := by
  rw [find?, all_overrides, List.find?_eq_none]
  intro override hoverride
  obtain ⟨scalar, hscalar, rfl⟩ := List.mem_map.mp hoverride
  rw [beq_iff_eq]
  exact fun hparts ↦ h scalar hscalar (splitPaired_injective '_' hparts)

end Override

/-! ## One variable -/

section

variable {beginning : String} {settings : Settings}

theorem withVariable_of_mem {scalar : Scalar} (hscalar : scalar ∈ scalars) (text : String) :
    withVariable beginning settings (scalar.variableName beginning, text) =
      match scalar.parse text with
      | .ok value => .ok (scalar.set value settings)
      | .error reason => .error (.malformedVariable (scalar.variableName beginning) reason) := by
  rw [withVariable, key?_eq_some (scalar.toList_variableName beginning)]
  simp only [Override.find?_of_mem hscalar, Scalar.override]
  cases scalar.parse text <;> rfl

theorem withVariable_of_ne {entry : String × String} (hscoped : isScoped beginning entry.1 = true)
    (hne : ∀ scalar ∈ scalars, entry.1 ≠ scalar.variableName beginning) :
    withVariable beginning settings entry = .ok settings := by
  obtain ⟨key, hkey⟩ := isScoped_iff.mp hscoped
  have hfind : Override.find? (splitPaired '_' key) = none := by
    refine Override.find?_of_ne fun scalar hscalar hname ↦ hne scalar hscalar ?_
    apply String.toList_injective
    rw [hkey, scalar.toList_variableName, hname]
  rw [withVariable, key?_eq_some hkey]
  simp only [hfind]

/-! ## Several variables -/

variable {environment : Environment}

theorem withEnvironment_cons_of_mem {scalar : Scalar} (hscalar : scalar ∈ scalars) (text : String) :
    withEnvironment beginning settings ((scalar.variableName beginning, text) :: environment) =
      match scalar.parse text with
      | .ok value => withEnvironment beginning (scalar.set value settings) environment
      | .error reason => .error (.malformedVariable (scalar.variableName beginning) reason) := by
  have hscoped := isScoped_iff.mpr ⟨_, scalar.toList_variableName beginning⟩
  rw [withEnvironment, List.filter_cons_of_pos (by exact hscoped), List.foldlM_cons,
    withVariable_of_mem hscalar]
  cases scalar.parse text <;> rfl

theorem withEnvironment_cons_of_ne {entry : String × String}
    (hne : ∀ scalar ∈ scalars, entry.1 ≠ scalar.variableName beginning) :
    withEnvironment beginning settings (entry :: environment) =
      withEnvironment beginning settings environment := by
  by_cases hscoped : isScoped beginning entry.1
  · rw [withEnvironment, List.filter_cons_of_pos (by exact hscoped), List.foldlM_cons,
      withVariable_of_ne hscoped hne]
    rfl
  · rw [withEnvironment, List.filter_cons_of_neg (by exact hscoped), withEnvironment]

end

/-- A variable of a scalar has a value that the scalar cannot have, for a reason. -/
def MalformedFor (beginning reason : String) (entry : String × String) : Prop :=
  ∃ scalar ∈ scalars, entry.1 = scalar.variableName beginning ∧
    scalar.parse entry.2 = .error reason

/-- A scalar is what its variable says, or what it was if its variable is not set. -/
structure Scalar.Overridden (scalar : Scalar) (beginning : String) (environment : Environment)
    (before after : Settings) : Prop where
  isSet : ∀ text, (scalar.variableName beginning, text) ∈ environment →
    scalar.parse text = .ok (scalar.get after)
  isUnset : (∀ text, (scalar.variableName beginning, text) ∉ environment) →
    scalar.get after = scalar.get before

/-- Every scalar is what its variable says, and all else is what it was. -/
structure Overridden (beginning : String) (environment : Environment) (before after : Settings) :
    Prop where
  scalars : ∀ scalar ∈ scalars, scalar.Overridden beginning environment before after
  documents : after.viewer.documents = before.viewer.documents

section

variable {beginning : String} {environment : Environment} {before after : Settings}

/-- The variables leave no choice about the settings. -/
theorem Overridden.unique {other : Settings}
    (hafter : Overridden beginning environment before after)
    (hother : Overridden beginning environment before other) : after = other := by
  refine eq_of_scalars (fun scalar hscalar ↦ ?_) (hafter.documents.trans hother.documents.symm)
  have hscalarAfter := hafter.scalars scalar hscalar
  have hscalarOther := hother.scalars scalar hscalar
  by_cases hset : ∃ text, (scalar.variableName beginning, text) ∈ environment
  · obtain ⟨text, htext⟩ := hset
    exact Except.ok.inj ((hscalarAfter.isSet text htext).symm.trans (hscalarOther.isSet text htext))
  · have hunset := not_exists.mp hset
    exact (hscalarAfter.isUnset hunset).trans (hscalarOther.isUnset hunset).symm

/-- The order of the variables makes no difference. -/
theorem Overridden.of_perm {visited : Environment} (hperm : visited.Perm environment)
    (h : Overridden beginning visited before after) :
    Overridden beginning environment before after where
  documents := h.documents
  scalars scalar hscalar :=
    { isSet := fun text htext ↦ (h.scalars scalar hscalar).isSet text (hperm.mem_iff.mpr htext)
      isUnset := fun hunset ↦ (h.scalars scalar hscalar).isUnset fun text htext ↦
        hunset text (hperm.mem_iff.mp htext) }

/-- A variable that belongs to no scalar changes nothing. -/
theorem Overridden.cons_of_ne {entry : String × String}
    (hne : ∀ scalar ∈ Settings.scalars, entry.1 ≠ scalar.variableName beginning)
    (h : Overridden beginning environment before after) :
    Overridden beginning (entry :: environment) before after where
  documents := h.documents
  scalars scalar hscalar := by
    have hscalarRest := h.scalars scalar hscalar
    have hmem {text : String} :
        (scalar.variableName beginning, text) ∈ entry :: environment ↔
          (scalar.variableName beginning, text) ∈ environment := by
      refine ⟨fun hmem ↦ ?_, List.mem_cons_of_mem entry⟩
      rcases List.mem_cons.mp hmem with rfl | hmem
      · exact absurd rfl (hne scalar hscalar)
      · exact hmem
    exact
      { isSet := fun text htext ↦ hscalarRest.isSet text (hmem.mp htext)
        isUnset := fun hunset ↦ hscalarRest.isUnset fun text htext ↦
          hunset text (hmem.mpr htext) }

/-- The variable of a scalar sets it, if no later variable has its name. -/
theorem Overridden.cons_of_mem {scalar : Scalar} (hscalar : scalar ∈ Settings.scalars)
    {text : String} {value : scalar.field.Kind} (hparse : scalar.parse text = .ok value)
    (hlater : scalar.variableName beginning ∉ environment.map Prod.fst)
    (h : Overridden beginning environment (scalar.set value before) after) :
    Overridden beginning ((scalar.variableName beginning, text) :: environment) before after where
  documents := h.documents.trans (scalar.documents_set hscalar value before)
  scalars other hother := by
    have hotherRest := h.scalars other hother
    by_cases hsame : other.name = scalar.name
    · obtain rfl := List.inj_on_of_nodup_map Scalar.nodup_names hother hscalar hsame
      have habsent : ∀ text, (other.variableName beginning, text) ∉ environment :=
        fun text htext ↦ hlater (List.mem_map_of_mem htext)
      have hget : other.get after = value := by
        rw [hotherRest.isUnset habsent, Scalar.get_set hother]
      refine { isSet := fun found hfound ↦ ?_, isUnset := fun hunset ↦ ?_ }
      · rcases List.mem_cons.mp hfound with hfound | hfound
        · cases hfound
          rw [hparse, hget]
        · exact absurd hfound (habsent found)
      · exact absurd List.mem_cons_self (hunset text)
    · have hname : other.variableName beginning ≠ scalar.variableName beginning := by
        simpa [Scalar.variableName] using hsame
      have hbefore := Scalar.get_set_of_ne hother hscalar hsame value before
      refine { isSet := fun found hfound ↦ ?_, isUnset := fun hunset ↦ ?_ }
      · rcases List.mem_cons.mp hfound with hfound | hfound
        · exact absurd (congrArg Prod.fst hfound) hname
        · exact hotherRest.isSet found hfound
      · rw [← hbefore]
        exact hotherRest.isUnset fun found hfound ↦
          hunset found (List.mem_cons_of_mem _ hfound)

/-! ## What an environment does -/

/-- If the variables are accepted, they set their scalars and nothing else. -/
theorem overridden_of_withEnvironment (hunique : (environment.map Prod.fst).Nodup)
    (h : withEnvironment beginning before environment = .ok after) :
    Overridden beginning environment before after := by
  induction environment generalizing before with
  | nil =>
    cases h
    exact ⟨fun scalar _ ↦ ⟨fun text htext ↦ absurd htext List.not_mem_nil, fun _ ↦ rfl⟩, rfl⟩
  | cons entry rest ih =>
    obtain ⟨hlater, hrest⟩ := List.nodup_cons.mp hunique
    by_cases hname : ∃ scalar ∈ scalars, entry.1 = scalar.variableName beginning
    · obtain ⟨scalar, hscalar, hname⟩ := hname
      obtain ⟨name, text⟩ := entry
      subst hname
      rw [withEnvironment_cons_of_mem hscalar] at h
      cases hparse : scalar.parse text with
      | ok value =>
        rw [hparse] at h
        exact .cons_of_mem hscalar hparse hlater (ih hrest h)
      | error reason =>
        rw [hparse] at h
        cases h
    · simp only [not_exists, not_and] at hname
      rw [withEnvironment_cons_of_ne hname] at h
      exact .cons_of_ne hname (ih hrest h)

/-- Variables are refused for one of them that is malformed. -/
theorem exists_malformed_of_withEnvironment {error : Error}
    (h : withEnvironment beginning before environment = .error error) :
    ∃ entry ∈ environment, ∃ reason, MalformedFor beginning reason entry ∧
      error = .malformedVariable entry.1 reason := by
  induction environment generalizing before with
  | nil => cases h
  | cons entry rest ih =>
    have hlater {next : Settings} (h : withEnvironment beginning next rest = .error error) :
        ∃ found ∈ entry :: rest, ∃ reason, MalformedFor beginning reason found ∧
          error = .malformedVariable found.1 reason := by
      obtain ⟨found, hfound, hreason⟩ := ih h
      exact ⟨found, List.mem_cons_of_mem entry hfound, hreason⟩
    by_cases hname : ∃ scalar ∈ scalars, entry.1 = scalar.variableName beginning
    · obtain ⟨scalar, hscalar, hname⟩ := hname
      obtain ⟨name, text⟩ := entry
      subst hname
      rw [withEnvironment_cons_of_mem hscalar] at h
      cases hparse : scalar.parse text with
      | ok value =>
        rw [hparse] at h
        exact hlater h
      | error reason =>
        rw [hparse] at h
        cases h
        exact ⟨_, List.mem_cons_self, reason, ⟨scalar, hscalar, rfl, hparse⟩, rfl⟩
    · simp only [not_exists, not_and] at hname
      rw [withEnvironment_cons_of_ne hname] at h
      exact hlater h

/-- Variables that are accepted are not malformed. -/
theorem not_malformed_of_overridden (h : Overridden beginning environment before after) :
    ∀ entry ∈ environment, ∀ reason, ¬MalformedFor beginning reason entry := by
  rintro ⟨name, text⟩ hentry reason ⟨scalar, hscalar, hname, hparse⟩
  subst hname
  rw [(h.scalars scalar hscalar).isSet text hentry] at hparse
  cases hparse

/-- The settings are refused if and only if some variable is malformed. -/
theorem withEnvironment_error_iff (hunique : (environment.map Prod.fst).Nodup) :
    (∃ error, withEnvironment beginning before environment = .error error) ↔
      ∃ entry ∈ environment, ∃ reason, MalformedFor beginning reason entry := by
  constructor
  · rintro ⟨error, herror⟩
    obtain ⟨entry, hentry, reason, hreason, -⟩ := exists_malformed_of_withEnvironment herror
    exact ⟨entry, hentry, reason, hreason⟩
  · rintro ⟨entry, hentry, reason, hreason⟩
    cases hresult : withEnvironment beginning before environment with
    | error error => exact ⟨error, rfl⟩
    | ok after =>
      have hoverridden := overridden_of_withEnvironment hunique hresult
      exact absurd hreason (not_malformed_of_overridden hoverridden entry hentry reason)

/-- The order in which variables come does not matter, except for which of several malformed ones
is reported. -/
theorem withEnvironment_perm {visited : Environment} (hperm : visited.Perm environment)
    (hunique : (environment.map Prod.fst).Nodup) :
    withEnvironment beginning before visited = .ok after ↔
      withEnvironment beginning before environment = .ok after := by
  -- no swaps of neighbours: what is accepted fits one description, which one result alone fits
  have hone {visited environment : Environment} (hperm : visited.Perm environment)
      (hvisited : (visited.map Prod.fst).Nodup) (hunique : (environment.map Prod.fst).Nodup)
      (h : withEnvironment beginning before visited = .ok after) :
      withEnvironment beginning before environment = .ok after := by
    have hafter := overridden_of_withEnvironment hvisited h
    cases hresult : withEnvironment beginning before environment with
    | error error =>
      obtain ⟨entry, hentry, reason, hreason⟩ :=
        (withEnvironment_error_iff hunique).mp ⟨error, hresult⟩
      exact absurd hreason
        (not_malformed_of_overridden hafter entry (hperm.mem_iff.mpr hentry) reason)
    | ok other =>
      rw [(overridden_of_withEnvironment hunique hresult).unique (hafter.of_perm hperm)]
  have hvisited : (visited.map Prod.fst).Nodup := (hperm.map Prod.fst).nodup_iff.mpr hunique
  exact ⟨hone hperm hvisited hunique, hone hperm.symm hunique hvisited⟩

end

/-! ## What is said of malformed variables -/

/-- What is said of the texts that are refused is not that a name has no key. -/
def BlamesText {α : Type} (parse : String → Except String α) : Prop :=
  ∀ text reason, parse text = .error reason → reason ≠ keyFormatText

namespace BlamesText

theorem ok {α : Type} (f : String → α) : BlamesText fun text ↦ .ok (f text) := by
  intro text reason h
  cases h

theorem parseCount : BlamesText parseCount := by
  intro text reason h
  unfold Settings.parseCount at h
  split at h
  · split at h
    · cases h
    · cases h
      decide
  · cases h
    decide

theorem parseFlag : BlamesText parseFlag := by
  intro text reason h
  unfold Settings.parseFlag at h
  dsimp only at h
  split_ifs at h
  cases h
  decide

theorem parseFormat : BlamesText parseFormat := by
  intro text reason h
  unfold Settings.parseFormat at h
  split at h
  · cases h
  · cases h
    decide

theorem ofText : BlamesText Expansion.ofText := by
  intro text reason h
  unfold Expansion.ofText at h
  split at h
  · cases h
  · cases h
    intro heq
    -- the two texts differ in their first characters
    have hhead := congrArg (fun reason : String ↦ reason.toList.head?) heq
    simp [keyFormatText] at hhead

end BlamesText

theorem blamesText_parse : ∀ scalar ∈ scalars, BlamesText scalar.parse := by
  simp only [scalars, List.forall_mem_cons]
  exact ⟨.ok id, .parseCount, .parseCount, .ok id, .ok id, .ok id, .ofText, .parseFlag, .ok id,
    .ok parseBase, .parseFlag, .ok id, .parseFormat, .parseFlag, .parseFlag, by simp⟩

end ApiReference.Settings
