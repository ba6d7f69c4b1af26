import ApiReference.Proofs.Settings.Overlay
import ApiReference.Settings.Loader

/-!
# Loaders

A loader takes one step after another.  Every loader that can be reached treats a layer in the same
way, and keeps what the layer leaves out.
-/

namespace ApiReference.Settings

open Decode Toml

namespace Loader

/-- A loader comes about from the first one by steps that succeed, whatever files and variables each
of them finds. -/
inductive Reachable : Loader → Prop where
  | start : Reachable {}
  | step {loader next : Loader} {files : Files} {environment changed : Environment} {step : Step}
    (hloader : Reachable loader)
    (hrun : run files (loader, environment) step = .ok (next, changed)) : Reachable next

/-- The layer that a text spells in a format. -/
def textLayer? (content format : String) : Option Value :=
  (Language.ofName? format).bind fun language ↦ (readLayer language content).toOption

theorem exists_textLayer?_of_withText {loader next : Loader} {content format : String}
    (hrun : loader.withText content format = .ok next) :
    ∃ layer, textLayer? content format = some layer ∧ layer.WellFormed ∧
      loader.settings.overlay layer = .ok next.settings := by
  obtain ⟨settings, hsettings, hnext⟩ := exists_of_bind_eq_ok hrun
  cases hnext
  unfold overlayText at hsettings
  split at hsettings
  case h_1 language hlanguage =>
    obtain ⟨layer, hlayer, hmerged⟩ := exists_of_bind_eq_ok hsettings
    refine ⟨layer, ?_, wellFormed_of_readLayer hlayer, hmerged⟩
    rw [textLayer?, hlanguage, Option.bind_some, hlayer, Except.toOption]
  case h_2 => cases hsettings

/-- A text leaves counts that can be printed. -/
theorem bounded_withText {loader next : Loader} {content format : String}
    (hrun : loader.withText content format = .ok next) : next.settings.Bounded := by
  obtain ⟨layer, -, hlayer, hmerged⟩ := exists_textLayer?_of_withText hrun
  exact bounded_of_overlay hlayer hmerged

/-- The layer that a file spells. -/
def fileLayer? (files : Files) (path : String) : Option Value :=
  match files.find? path with
  | some (.file bytes) => do
    let cs ← Text.Utf8.decode? bytes
    let language ← (Files.extension? path).bind Language.ofName?
    (readLayer language (String.ofList cs)).toOption
  | _ => none

theorem exists_fileLayer?_of_withFile {loader next : Loader} {files : Files} {path : String}
    (hrun : loader.withFile files path = .ok next) :
    ∃ layer, fileLayer? files path = some layer ∧ layer.WellFormed ∧
      loader.settings.overlay layer = .ok next.settings := by
  unfold withFile at hrun
  unfold fileLayer?
  split at hrun
  case h_3 bytes hfound =>
    split at hrun
    case h_2 cs hdecoded =>
      split at hrun
      case h_2 language hlanguage =>
        obtain ⟨layer, hlayer, hrun⟩ := exists_of_bind_eq_ok hrun
        obtain ⟨settings, hmerged, hnext⟩ := exists_of_bind_eq_ok hrun
        cases hnext
        refine ⟨layer, ?_, wellFormed_of_readLayer hlayer, hmerged⟩
        rw [hfound]
        simp only [hdecoded, hlanguage, hlayer, Except.toOption, Option.bind_eq_bind,
          Option.bind_some]
      all_goals cases hrun
    all_goals cases hrun
  all_goals cases hrun

/-- A file leaves counts that can be printed. -/
theorem bounded_withFile {loader next : Loader} {files : Files} {path : String}
    (hrun : loader.withFile files path = .ok next) : next.settings.Bounded := by
  obtain ⟨layer, -, hlayer, hmerged⟩ := exists_fileLayer?_of_withFile hrun
  exact bounded_of_overlay hlayer hmerged

/-- A step keeps the timeouts within their bounds. -/
theorem bounded_run {loader next : Loader} {files : Files} {environment changed : Environment}
    {step : Step} (hloader : loader.settings.Bounded)
    (hrun : run files (loader, environment) step = .ok (next, changed)) :
    next.settings.Bounded := by
  cases step with
  | defaults | development | production =>
    cases hrun
    exact bounded_presets _ (by simp)
  | dotenv =>
    obtain ⟨set, -, hnext⟩ := exists_of_map_eq_ok hrun
    cases hnext
    exact hloader
  | text content format =>
    obtain ⟨after, hafter, hnext⟩ := exists_of_map_eq_ok hrun
    cases hnext
    exact bounded_withText hafter
  | file path =>
    obtain ⟨after, hafter, hnext⟩ := exists_of_map_eq_ok hrun
    cases hnext
    exact bounded_withFile hafter
  | optionalFile path =>
    obtain ⟨after, hafter, hnext⟩ := exists_of_map_eq_ok hrun
    cases hnext
    unfold withOptionalFile at hafter
    split at hafter
    · exact bounded_withFile hafter
    · cases hafter
      exact hloader
  | overrides beginning =>
    cases hrun
    exact hloader

/-- Whatever was loaded, the counts of the settings can be printed. -/
theorem Reachable.bounded {loader : Loader} (h : loader.Reachable) : loader.settings.Bounded := by
  induction h with
  | start => exact bounded_presets _ (by simp)
  | step _ hrun ih => exact bounded_run ih hrun

/-- A parsed layer with tables in the places of the sections is accepted by every loader that can be
reached, or refused by all of them for the same reason, and never because of a number that TOML
cannot hold.  An accepted one sets what it names, and leaves everything else as it was. -/
theorem overlay_ok_iff_layered {loader : Loader} (hloader : loader.Reachable) {language : Language}
    {text : String} {layer : Table Value} (hlayer : readLayer language text = .ok (.table layer))
    (hsections : Sectioned layer) :
    ((∃ merged, loader.settings.overlay (.table layer) = .ok merged) ↔ Fits layer) ∧
    (∀ merged, loader.settings.overlay (.table layer) = .ok merged ↔
      Fits layer ∧ Layered layer loader.settings merged) ∧
    (∀ other : Loader, other.Reachable → ∀ error,
      loader.settings.overlay (.table layer) = .error error ↔
        other.settings.overlay (.table layer) = .error error) ∧
    loader.settings.overlay (.table layer) ≠ .error .tooLarge := by
  have hwell := wellFormed_of_readLayer hlayer
  refine ⟨exists_overlay_iff_fits hloader.bounded hsections hwell, fun merged ↦
    overlay_ok_iff hloader.bounded hsections hwell, fun other hother error ↦ ?_, fun htooLarge ↦ ?_⟩
  · rw [overlay_error_iff hloader.bounded hsections hwell,
      overlay_error_iff hother.bounded hsections hwell]
  · obtain ⟨refusal, -, herror⟩ := (overlay_error_iff hloader.bounded hsections hwell).mp htooLarge
    cases herror

/-- The time that a request may take, set over the settings for production. -/
theorem overlay_requestMillis_production :
    ∃ layer : Table Value, Reachable { settings := production } ∧
      readLayer .toml "[server]\nrequest_timeout_ms = 5" = .ok (.table layer) ∧ Sectioned layer ∧
      Fits layer ∧ ∃ merged, production.overlay (.table layer) = .ok merged := by
  have hrun : run {} ({}, []) .production = .ok ({ settings := production }, []) := rfl
  have hloader : Reachable { settings := production } := .step .start hrun
  have hlayer : readLayer .toml "[server]\nrequest_timeout_ms = 5" =
      .ok (.table [("server", .table [("request_timeout_ms", .integer 5)])]) := by
    unfold readLayer Value.read? readSections
    rw [show "[server]\nrequest_timeout_ms = 5".toList = _ from String.toList_ofList]
    cbv
  have hsections : Sectioned [("server", .table [("request_timeout_ms", .integer 5)])] := by
    simp [Sectioned, parts, Table.get?, List.lookup]
  have hfits : Fits [("server", .table [("request_timeout_ms", .integer 5)])] := by
    intro entry hentry
    rw [List.mem_singleton.mp hentry]
    refine ⟨serverPart, by simp [parts], rfl, fun inner hinner member hmember ↦ ?_⟩
    cases hinner
    rw [List.mem_singleton.mp hmember]
    exact ⟨Server.requestMillisField, by simp [Server.fields], rfl, 5, rfl⟩
  exact ⟨_, hloader, hlayer, hsections, hfits,
    (overlay_ok_iff_layered hloader hlayer hsections).1.mpr hfits⟩

end Loader

end ApiReference.Settings
