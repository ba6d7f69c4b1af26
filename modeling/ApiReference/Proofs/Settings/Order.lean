import ApiReference.Proofs.Settings.Dotenv
import ApiReference.Proofs.Settings.Overrides
import ApiReference.Settings.Loader

/-!
# Orders of Steps and of Variables

A loader visits the variables in no particular order.  Nor does it matter when among its steps the
beginning of the variables is set.
-/

namespace ApiReference.Settings

open Decode Text

/-! ## Variables from a file -/

/-- A definition names no variable twice. -/
theorem nodup_define {environment defined : Environment} (h : (environment.map Prod.fst).Nodup)
    {name value : String} (hok : Dotenv.define environment name value = .ok defined) :
    (defined.map Prod.fst).Nodup := by
  rcases Dotenv.cases_of_define_eq_ok hok with rfl | ⟨hunset, rfl⟩
  · exact h
  · have habsent : name ∉ environment.map Prod.fst := by
      intro hname
      obtain ⟨entry, hentry, rfl⟩ := List.mem_map.mp hname
      exact (bne_iff_ne.mp (List.lookup_eq_none_iff.mp hunset entry hentry)) rfl
    rw [List.map_append, List.map_singleton, List.nodup_append]
    refine ⟨h, List.nodup_singleton name, fun set hset other hother ↦ ?_⟩
    rw [List.mem_singleton.mp hother]
    exact fun heq ↦ habsent (heq.subst (motive := fun key ↦ key ∈ environment.map Prod.fst) hset)

theorem nodup_loadLines {environment : Environment} (h : (environment.map Prod.fst).Nodup)
    (lines : List (Except Dotenv.Failure (List Char))) :
    ((Dotenv.loadLines environment lines).1.map Prod.fst).Nodup := by
  induction lines generalizing environment with
  | nil => exact h
  | cons line rest ih =>
    cases line with
    | error failure => exact h
    | ok line =>
      unfold Dotenv.loadLines
      split
      · exact h
      · exact ih h
      · split
        · exact h
        case h_2 hdefined => exact ih (nodup_define h hdefined)

/-! ## Beginnings -/

/-- The beginning of variables that a step sets. -/
def Step.beginning? : Step → Option String
  | .overrides beginning => some beginning
  | _ => none

/-- The last beginning of variables that steps set. -/
def lastBeginning? (steps : List Step) : Option String :=
  (steps.filterMap Step.beginning?).getLast?

/-- The steps without those that set a beginning of variables. -/
def withoutBeginnings (steps : List Step) : List Step :=
  steps.filter fun step ↦ step.beginning?.isNone

namespace Loader

variable {files : Files}

theorem nodup_dotenv {environment loaded : Environment} (h : (environment.map Prod.fst).Nodup)
    (hok : dotenv files environment = .ok loaded) : (loaded.map Prod.fst).Nodup := by
  have hload : ((Dotenv.load files environment).1.map Prod.fst).Nodup := by
    unfold Dotenv.load
    split
    · exact nodup_loadLines h _
    · exact h
  unfold dotenv at hok
  split at hok
  case h_1 changed hchanged =>
    cases hok
    rw [hchanged] at hload
    exact hload
  case h_2 => cases hok

/-! ## Steps -/

/-- A loader and its variables, with another beginning of variables. -/
def withBeginning (beginning : Option String) (state : Loader × Environment) :
    Loader × Environment :=
  ({ state.1 with beginning }, state.2)

/-- No file is read otherwise when the beginning of the variables is set. -/
theorem withFile_withBeginning (loader : Loader) (beginning : Option String) (path : String) :
    withFile { loader with beginning } files path =
      (loader.withFile files path).map fun next ↦ { next with beginning } := by
  unfold withFile
  split
  · rfl
  · rfl
  · split
    · rfl
    · split
      · rfl
      · cases readLayer _ _ with
        | error error => rfl
        | ok layer =>
          show (loader.settings.overlay layer).bind _ =
            Except.map _ ((loader.settings.overlay layer).bind _)
          cases loader.settings.overlay layer <;> rfl

/-- A step that sets no beginning goes the same way whatever the beginning is, and leaves it. -/
theorem run_withBeginning {step : Step} (hstep : step.beginning? = none)
    (beginning : Option String) (state : Loader × Environment) :
    run files (withBeginning beginning state) step =
      (run files state step).map (withBeginning beginning) := by
  cases step with
  | defaults | development | production => rfl
  | dotenv =>
    show (dotenv files state.2).map _ = _
    rw [run]
    cases dotenv files state.2 <;> rfl
  | text content format =>
    rw [run, run, withText, withText, withBeginning]
    cases state.1.settings.overlayText content format <;> rfl
  | file path =>
    rw [run, run, withBeginning, withFile_withBeginning]
    cases state.1.withFile files path <;> rfl
  | optionalFile path =>
    rw [run, run, withBeginning, withOptionalFile, withOptionalFile]
    split
    · rw [withFile_withBeginning]
      cases state.1.withFile files path <;> rfl
    · rfl
  | overrides set => cases hstep

theorem beginning_of_run {step : Step} (hstep : step.beginning? = none)
    {state next : Loader × Environment} (hrun : run files state step = .ok next) :
    next.1.beginning = state.1.beginning := by
  have hsame : run files (withBeginning state.1.beginning state) step =
      (run files state step).map (withBeginning state.1.beginning) :=
    run_withBeginning hstep state.1.beginning state
  rw [show withBeginning state.1.beginning state = state from rfl, hrun] at hsame
  have hnext : next = withBeginning state.1.beginning next := Except.ok.inj hsame
  rw [hnext]
  rfl

/-- The beginning can be set before the other steps as well as after them. -/
theorem foldlM_withBeginning {steps : List Step} (hsteps : ∀ step ∈ steps, step.beginning? = none)
    (beginning : Option String) (state : Loader × Environment) :
    steps.foldlM (run files) (withBeginning beginning state) =
      (steps.foldlM (run files) state).map (withBeginning beginning) := by
  induction steps generalizing state with
  | nil => rfl
  | cons step rest ih =>
    obtain ⟨hstep, hrest⟩ := List.forall_mem_cons.mp hsteps
    rw [List.foldlM_cons, List.foldlM_cons, run_withBeginning hstep]
    cases run files state step with
    | ok next => exact ih hrest next
    | error error => rfl

/-- Steps come to what they come to without a beginning, and then the last beginning is set. -/
theorem foldlM_run (steps : List Step) (state : Loader × Environment) :
    steps.foldlM (run files) state =
      ((withoutBeginnings steps).foldlM (run files) state).map
        (withBeginning (((lastBeginning? steps).map upper).or state.1.beginning)) := by
  -- a beginning that is set is carried past the later steps, where a later one replaces it
  induction steps generalizing state with
  | nil => rfl
  | cons step rest ih =>
    rw [List.foldlM_cons]
    cases hstep : step.beginning? with
    | none =>
      rw [withoutBeginnings, List.filter_cons_of_pos (by simp [hstep]), List.foldlM_cons,
        lastBeginning?, List.filterMap_cons_none hstep]
      cases hrun : run files state step with
      | error error => rfl
      | ok next =>
        rw [← beginning_of_run hstep hrun]
        exact ih next
    | some beginning =>
      have hrun : run files state step = .ok (withBeginning (some (upper beginning)) state) := by
        cases step with
        | overrides set =>
          cases hstep
          rfl
        | _ => cases hstep
      have hothers : ∀ step ∈ withoutBeginnings rest, step.beginning? = none := by
        intro step hmem
        exact Option.isNone_iff_eq_none.mp (List.mem_filter.mp hmem).2
      have hlast : (lastBeginning? (step :: rest)).map upper =
          ((lastBeginning? rest).map upper).or (some (upper beginning)) := by
        rw [lastBeginning?, List.filterMap_cons_some hstep, List.getLast?_cons, lastBeginning?]
        cases (rest.filterMap Step.beginning?).getLast? <;> rfl
      rw [hrun, hlast, withoutBeginnings, List.filter_cons_of_neg (by simp [hstep])]
      refine (ih (withBeginning (some (upper beginning)) state)).trans ?_
      rw [foldlM_withBeginning hothers, Option.or_assoc, withoutBeginnings]
      cases List.foldlM (run files) state (List.filter (fun step ↦ step.beginning?.isNone) rest) <;>
        rfl

theorem nodup_run {step : Step} {state next : Loader × Environment}
    (h : (state.2.map Prod.fst).Nodup) (hrun : run files state step = .ok next) :
    (next.2.map Prod.fst).Nodup := by
  cases step with
  | defaults | development | production | overrides beginning =>
    cases hrun
    exact h
  | dotenv =>
    obtain ⟨loaded, hloaded, rfl⟩ := exists_of_map_eq_ok hrun
    exact nodup_dotenv h hloaded
  | text content format =>
    obtain ⟨loader, -, rfl⟩ := exists_of_map_eq_ok hrun
    exact h
  | file path =>
    obtain ⟨loader, -, rfl⟩ := exists_of_map_eq_ok hrun
    exact h
  | optionalFile path =>
    obtain ⟨loader, -, rfl⟩ := exists_of_map_eq_ok hrun
    exact h

theorem nodup_foldlM_run {steps : List Step} {state final : Loader × Environment}
    (h : (state.2.map Prod.fst).Nodup) (hrun : steps.foldlM (run files) state = .ok final) :
    (final.2.map Prod.fst).Nodup := by
  induction steps generalizing state with
  | nil =>
    cases hrun
    exact h
  | cons step rest ih =>
    obtain ⟨next, hnext, hrest⟩ := exists_of_bind_eq_ok hrun
    exact ih (nodup_run h hnext) hrest

/-! ## Loading -/

/-- A variable of a scalar is malformed for a reason, if the loader has a beginning of variables. -/
def MalformedFor (loader : Loader) (reason : String) (entry : String × String) : Prop :=
  ∃ beginning, loader.beginning = some beginning ∧ Settings.MalformedFor beginning reason entry

/-- Settings are those of a loader with the overrides of the variables, if the loader has a
beginning of variables. -/
def Overridden (loader : Loader) (environment : Environment) (settings : Settings) : Prop :=
  match loader.beginning with
  | some beginning => Settings.Overridden beginning environment loader.settings settings
  | none => settings = loader.settings

section

variable {loader : Loader} {environment visited : Environment} {settings : Settings}

/-- Settings that are not refused hold what the variables say. -/
theorem overridden_of_ok (hunique : (environment.map Prod.fst).Nodup)
    (h : loader.overridden environment = .ok settings) :
    loader.Overridden environment settings := by
  unfold overridden at h
  unfold Overridden
  cases hbeginning : loader.beginning with
  | none =>
    rw [hbeginning] at h
    cases h
    rfl
  | some beginning =>
    rw [hbeginning] at h
    exact overridden_of_withEnvironment hunique h

/-- Overriding fails if and only if some variable is malformed. -/
theorem overridden_error_iff (hunique : (environment.map Prod.fst).Nodup) :
    (∃ error, loader.overridden environment = .error error) ↔
      ∃ entry ∈ environment, ∃ reason, loader.MalformedFor reason entry := by
  unfold overridden MalformedFor
  cases hbeginning : loader.beginning with
  | none => simp
  | some beginning => simpa using withEnvironment_error_iff hunique

/-- The variable that is named is a malformed one, and the reason is its own. -/
theorem exists_malformed_of_overridden {error : Error}
    (h : loader.overridden environment = .error error) :
    ∃ entry ∈ environment, ∃ reason, loader.MalformedFor reason entry ∧ reason ≠ keyFormatText ∧
      error = .malformedVariable entry.1 reason := by
  unfold overridden at h
  cases hbeginning : loader.beginning with
  | none =>
    rw [hbeginning] at h
    cases h
  | some beginning =>
    rw [hbeginning] at h
    obtain ⟨entry, hentry, reason, hmalformed, rfl⟩ := exists_malformed_of_withEnvironment h
    have hreason : reason ≠ keyFormatText := by
      obtain ⟨scalar, hscalar, -, hparse⟩ := hmalformed
      exact blamesText_parse scalar hscalar _ _ hparse
    exact ⟨entry, hentry, reason, ⟨beginning, hbeginning, hmalformed⟩, hreason, rfl⟩

/-- The order in which variables are visited makes no difference to the settings. -/
theorem overridden_perm (hperm : visited.Perm environment)
    (hunique : (environment.map Prod.fst).Nodup) :
    loader.overridden visited = .ok settings ↔ loader.overridden environment = .ok settings := by
  unfold overridden
  split
  · exact withEnvironment_perm hperm hunique
  · rfl

/-- The order in which variables are visited makes no difference to what is loaded. -/
theorem load_perm (hperm : visited.Perm environment) (hunique : (environment.map Prod.fst).Nodup) :
    (loader.load visited).toOption = (loader.load environment).toOption := by
  unfold load
  cases hvisited : loader.overridden visited with
  | ok settings => rw [(overridden_perm hperm hunique).mp hvisited]
  | error error =>
    cases henvironment : loader.overridden environment with
    | ok settings =>
      rw [(overridden_perm hperm hunique).mpr henvironment] at hvisited
      cases hvisited
    | error other => rfl

theorem validate_of_load (h : loader.load environment = .ok settings) :
    settings.validate = .ok () := by
  obtain ⟨overridden, -, h⟩ := exists_of_bind_eq_ok h
  obtain ⟨⟨⟩, hvalid, h⟩ := exists_of_bind_eq_ok h
  cases h
  exact hvalid

end

/-- What loading gives after some steps, the variables being visited in some order. -/
def outcome (files : Files) (environment : Environment) (order : Environment → Environment)
    (steps : List Step) : Except Error Settings := do
  let (loader, loaded) ← steps.foldlM (run files) ({}, environment)
  loader.load (order loaded)

theorem outcome_of_error {files : Files} {environment : Environment} {steps : List Step}
    {error : Error} (hrun : steps.foldlM (run files) ({}, environment) = .error error)
    (order : Environment → Environment) : outcome files environment order steps = .error error := by
  rw [outcome, hrun]
  rfl

section

variable {files : Files} {environment loaded : Environment} {steps : List Step} {loader : Loader}
  (hrun : steps.foldlM (run files) ({}, environment) = .ok (loader, loaded))
  (order : Environment → Environment)

include hrun

theorem outcome_of_ok : outcome files environment order steps = loader.load (order loaded) := by
  rw [outcome, hrun]
  rfl

/-- Loading gives the overridden settings, if they are valid, and nothing else. -/
theorem outcome_ok_iff {settings : Settings} :
    outcome files environment order steps = .ok settings ↔
      loader.overridden (order loaded) = .ok settings ∧ settings.validate = .ok () := by
  rw [outcome_of_ok hrun, load]
  cases loader.overridden (order loaded) with
  | error error => simp [bind, Except.bind]
  | ok overridden =>
    cases hvalid : overridden.validate with
    | error error =>
      simp only [bind, Except.bind, hvalid, reduceCtorEq, Except.ok.injEq, false_iff, not_and]
      rintro rfl
      simp [hvalid]
    | ok _ =>
      simp only [bind, Except.bind, hvalid, pure, Except.pure, Except.ok.injEq]
      constructor
      · rintro rfl
        exact ⟨rfl, hvalid⟩
      · exact And.left

/-- Loading fails if overriding does, or if the overridden settings are not valid. -/
theorem outcome_error_iff {error : Error} :
    outcome files environment order steps = .error error ↔
      loader.overridden (order loaded) = .error error ∨
        ∃ settings, loader.overridden (order loaded) = .ok settings ∧
          settings.validate = .error error := by
  rw [outcome_of_ok hrun, load]
  cases loader.overridden (order loaded) with
  | error other => simp [bind, Except.bind]
  | ok overridden =>
    cases hvalid : overridden.validate with
    | error _ | ok _ => simp [bind, Except.bind, hvalid, pure, Except.pure]

end

/-- In whatever order variables with different names are visited, loading comes to the same valid
settings or is refused, and it does not matter either which of the steps set the last beginning of
variables.  Variables are refused just if the value of one that belongs to a scalar is malformed,
and then loading is refused for one such variable, which is named; else they set their scalars, and
nothing else, and loading gives what they come to if that is valid. -/
theorem load_in_any_order (files : Files) {environment : Environment}
    (hunique : (environment.map Prod.fst).Nodup) (steps : List Step)
    {order other : Environment → Environment} (horder : ∀ loaded, (order loaded).Perm loaded)
    (hother : ∀ loaded, (other loaded).Perm loaded) :
    (outcome files environment order steps).toOption =
      (outcome files environment other steps).toOption ∧
    (∀ settings, outcome files environment order steps = .ok settings →
      settings.validate = .ok ()) ∧
    (∀ moved, withoutBeginnings moved = withoutBeginnings steps →
      lastBeginning? moved = lastBeginning? steps →
      outcome files environment order moved = outcome files environment order steps) ∧
    (∀ error, steps.foldlM (run files) ({}, environment) = .error error →
      outcome files environment order steps = .error error) ∧
    ∀ loader loaded, steps.foldlM (run files) ({}, environment) = .ok (loader, loaded) →
      ((∃ error, loader.overridden (order loaded) = .error error) ↔
        ∃ entry ∈ loaded, ∃ reason, loader.MalformedFor reason entry) ∧
      (∀ error, loader.overridden (order loaded) = .error error →
        ∃ entry ∈ loaded, ∃ reason, loader.MalformedFor reason entry ∧ reason ≠ keyFormatText ∧
          error = .malformedVariable entry.1 reason) ∧
      (∀ settings, loader.overridden (order loaded) = .ok settings →
        loader.Overridden loaded settings) ∧
      (∀ settings, outcome files environment order steps = .ok settings ↔
        loader.overridden (order loaded) = .ok settings ∧ settings.validate = .ok ()) ∧
      ∀ error, outcome files environment order steps = .error error ↔
        loader.overridden (order loaded) = .error error ∨
          ∃ settings, loader.overridden (order loaded) = .ok settings ∧
            settings.validate = .error error := by
  refine ⟨?_, ?_, ?_, fun error hrun ↦ outcome_of_error hrun order, fun loader loaded hrun ↦ ?_⟩
  · unfold outcome
    cases hrun : steps.foldlM (run files) ({}, environment) with
    | error error => rfl
    | ok final =>
      have hloaded := nodup_foldlM_run hunique hrun
      exact (load_perm (horder final.2) hloaded).trans (load_perm (hother final.2) hloaded).symm
  · intro settings hok
    obtain ⟨final, -, hok⟩ := exists_of_bind_eq_ok hok
    exact validate_of_load hok
  · intro moved hsame hlast
    unfold outcome
    rw [foldlM_run moved, foldlM_run steps, hsame, hlast]
  · have hloaded : (loaded.map Prod.fst).Nodup := nodup_foldlM_run hunique hrun
    have hmem {entry : String × String} : entry ∈ order loaded ↔ entry ∈ loaded :=
      (horder loaded).mem_iff
    have hvisited : ((order loaded).map Prod.fst).Nodup :=
      ((horder loaded).map Prod.fst).nodup_iff.mpr hloaded
    refine ⟨?_, fun error herror ↦ ?_, fun settings hok ↦ ?_, fun settings ↦
      outcome_ok_iff hrun order, fun error ↦ outcome_error_iff hrun order⟩
    · rw [overridden_error_iff hvisited]
      simp only [hmem]
    · obtain ⟨entry, hentry, hreason⟩ := exists_malformed_of_overridden herror
      exact ⟨entry, hmem.mp hentry, hreason⟩
    · exact overridden_of_ok hloaded ((overridden_perm (horder loaded) hloaded).mp hok)


/-- There and back, a good variable sets its scalar, and of two malformed ones one is named,
wherever the beginning is set. -/
theorem load_there_and_back :
    let good : Environment := [("APP__SERVER__HTTP_ADDR", "127.0.0.1:9000"), ("APP__OTHER", "x")]
    let bad : Environment := [("APP__LOGGING__ENABLED", "maybe"),
      ("APP__SERVER__HTTP_ADDR", "127.0.0.1:9000"), ("APP__VIEWER__DOC_EXPANSION", "half")]
    ((good.map Prod.fst).Nodup ∧ (bad.map Prod.fst).Nodup) ∧
    (∃ settings, settings.server.address = "127.0.0.1:9000" ∧ settings.validate = .ok () ∧
      outcome {} good id [.production, .overrides "app"] = .ok settings ∧
      (outcome {} good List.reverse [.production, .overrides "app"]).toOption = some settings) ∧
    (∃ entry ∈ bad, ∃ reason,
      outcome {} bad List.reverse [.production, .overrides "app"] =
        .error (.malformedVariable entry.1 reason)) ∧
    outcome {} bad List.reverse [.overrides "app", .production] =
      outcome {} bad List.reverse [.production, .overrides "app"] := by
  intro good bad
  have hgood : (good.map Prod.fst).Nodup := by decide
  have hbad : (bad.map Prod.fst).Nodup := by decide
  obtain ⟨hsame, hvalid, -, -, -⟩ := load_in_any_order {} hgood [.production, .overrides "app"]
    List.Perm.refl List.reverse_perm
  obtain ⟨-, -, hmoved, -, hloaded⟩ := load_in_any_order {} hbad [.production, .overrides "app"]
    List.reverse_perm List.Perm.refl
  obtain ⟨-, hnamed, -, -, hrefused⟩ :=
    hloaded { settings := production, beginning := some (upper "app") } bad rfl
  refine ⟨⟨hgood, hbad⟩, ?_, ?_, hmoved _ rfl rfl⟩
  · have haddress : (outcome {} good id [.production, .overrides "app"]).toOption.map
        (fun settings ↦ settings.server.address) = some "127.0.0.1:9000" := by
      decide +kernel
    obtain ⟨settings, hsettings, haddress⟩ := Option.map_eq_some_iff.mp haddress
    have hok : outcome {} good id [.production, .overrides "app"] = .ok settings := by
      cases houtcome : outcome {} good id [.production, .overrides "app"] with
      | error error =>
        rw [houtcome] at hsettings
        cases hsettings
      | ok loaded =>
        rw [houtcome] at hsettings
        cases hsettings
        rfl
    exact ⟨settings, haddress, hvalid settings hok, hok, hsame.symm.trans hsettings⟩
  · have hnone : (overridden { settings := production, beginning := some (upper "app") }
        bad.reverse).toOption = none := by
      decide +kernel
    cases hoverridden : overridden { settings := production, beginning := some (upper "app") }
        bad.reverse with
    | ok settings =>
      rw [hoverridden] at hnone
      cases hnone
    | error error =>
      obtain ⟨entry, hentry, reason, -, -, rfl⟩ := hnamed error hoverridden
      exact ⟨entry, hentry, reason, (hrefused _).mpr (.inl hoverridden)⟩

end Loader

end ApiReference.Settings
