import ApiReference.CommandLine.Run
import ApiReference.Proofs.Settings.Dotenv
import ApiReference.Proofs.Settings.Loading
import ApiReference.Proofs.Settings.Scalars

/-!
# Which Source Prevails

The settings of a run come from the options, the file of settings and the defaults, in this order.
Variables should come between the options and the file, but no value is taken from them.
-/

namespace ApiReference.CommandLine

open Decode Toml Settings

/-! ## Sources -/

/-- The variables of a run: those of the process, and those of the file of variables that the
process does not have. -/
def loadedVariables (files : Files) (environment : Environment) : Environment :=
  (Dotenv.load files environment).1

/-- The layer of the file of settings, if there is such a file. -/
def Options.layer? (options : Options) (files : Files) : Option Value :=
  Loader.fileLayer? files (options.config.getD Options.defaultFile)

/-- Variables prevail over the file of settings, and malformed ones are refused. -/
structure AsDocumented (options : Options) (files : Files) (environment : Environment) : Prop where
  prevails : ∀ settings, options.settings files environment = .ok settings →
    settings.validate = .ok () ∧ ∀ scalar ∈ scalars,
      scalar.Documented options (loadedVariables files environment) (options.layer? files) settings
  refuses : ∀ scalar ∈ scalars, scalar.Malformed (loadedVariables files environment) →
    ∃ report, options.settings files environment = .error report

/-- No variable is malformed, and none differs from what is taken in its place. -/
def VariablesIdle (options : Options) (files : Files) (environment : Environment) : Prop :=
  ∀ scalar ∈ scalars, ¬scalar.Malformed (loadedVariables files environment) ∧
    ∀ text value, scalar.option options = none →
      scalar.text? (loadedVariables files environment) = some text →
      scalar.parse text = .ok value → scalar.Given (options.layer? files) value

/-! ## What is in effect -/

/-- An option that is given decides its field; the others stay as they are. -/
theorem get_applyTo (options : Options) (settings : Settings) : ∀ scalar ∈ scalars,
    scalar.get (options.applyTo settings) = (scalar.option options).getD (scalar.get settings) := by
  simp [scalars, Scalar.get, Options.applyTo]

/-- A variable that is set keeps its value, whatever is defined after it. -/
theorem lookup_define {environment defined : Environment} {name value : String}
    (h : environment.lookup name = some value) {other otherValue : String}
    (hok : Dotenv.define environment other otherValue = .ok defined) :
    defined.lookup name = some value := by
  rcases Dotenv.cases_of_define_eq_ok hok with rfl | ⟨-, rfl⟩
  · exact h
  · rw [List.lookup_append, h, Option.some_or]

/-- A variable of the process keeps its value when a file of variables is loaded. -/
theorem lookup_loadLines {environment : Environment} {name value : String}
    (h : environment.lookup name = some value) (lines : List (Except Dotenv.Failure (List Char))) :
    (Dotenv.loadLines environment lines).1.lookup name = some value := by
  induction lines generalizing environment with
  | nil => exact h
  | cons line rest ih =>
    cases line with
    | error failure => exact h
    | ok line =>
      unfold Dotenv.loadLines
      split
      · exact h
      · exact ih h
      · split
        · exact h
        case h_2 hdefined => exact ih (lookup_define h hdefined)

/-- A variable of the process stays what it is. -/
theorem lookup_loadedVariables {environment : Environment} {name value : String}
    (h : environment.lookup name = some value) (files : Files) :
    (loadedVariables files environment).lookup name = some value := by
  unfold loadedVariables Dotenv.load
  split
  · exact lookup_loadLines h _
  · exact h

theorem given_of_layer {layer? : Option Value} {layer : Value} (hlayer? : layer? = some layer)
    (hlayer : layer.WellFormed) {settings : Settings} (hok : overlay {} layer = .ok settings)
    {scalar : Scalar} (hscalar : scalar ∈ scalars) :
    scalar.Given layer? (scalar.get settings) := by
  obtain ⟨hpart, hfield⟩ := scalars_mem_parts scalar hscalar
  have hfollows := follows_overlay_default hlayer hok hpart hfield
  unfold Scalar.Given
  rw [hlayer?, Option.bind_some]
  cases hfound : scalar.part.found? layer scalar.field.key with
  | none | some found =>
    rw [hfound] at hfollows
    exact hfollows

/-- A loaded field has the value that the file of settings gives, or its default. -/
theorem given_of_loader {options : Options} {files : Files} {loader : Loader}
    (hok : options.loader files = .ok loader) {scalar : Scalar} (hscalar : scalar ∈ scalars) :
    scalar.Given (options.layer? files) (scalar.get loader.settings) := by
  have hfile {path : String} (hrun : Loader.withFile {} files path = .ok loader) :
      scalar.Given (Loader.fileLayer? files path) (scalar.get loader.settings) := by
    obtain ⟨layer, hlayer?, hlayer, hmerged⟩ := Loader.exists_fileLayer?_of_withFile hrun
    exact given_of_layer hlayer? hlayer hmerged hscalar
  unfold Options.loader at hok
  unfold Options.layer?
  cases hconfig : options.config with
  | some path =>
    simp only [hconfig] at hok
    rw [Option.getD_some]
    exact hfile (eq_ok_of_mapError_eq_ok hok)
  | none =>
    simp only [hconfig] at hok
    rw [Option.getD_none]
    have hrun := eq_ok_of_mapError_eq_ok hok
    unfold Loader.withOptionalFile at hrun
    split at hrun
    case isTrue => exact @hfile Options.defaultFile hrun
    case isFalse habsent =>
      cases hrun
      have hnone : files.find? Options.defaultFile = none := by
        simpa using habsent
      unfold Scalar.Given
      rw [Loader.fileLayer?, hnone, Option.bind_none]

/-- Settings in effect are valid, and come from a file of variables and one of settings that were
both accepted. -/
theorem exists_loader_of_settings {options : Options} {files : Files} {environment : Environment}
    {settings : Settings} (hok : options.settings files environment = .ok settings) :
    ∃ loader, options.loader files = .ok loader ∧ settings = options.applyTo loader.settings ∧
      settings.validate = .ok () := by
  obtain ⟨-, -, hok⟩ := exists_of_bind_eq_ok hok
  obtain ⟨loader, hloader, hok⟩ := exists_of_bind_eq_ok hok
  obtain ⟨⟨⟩, hvalid, hok⟩ := exists_of_bind_eq_ok hok
  cases hok
  exact ⟨loader, hloader, rfl, eq_ok_of_mapError_eq_ok hvalid⟩

/-- Every field in effect comes from the option, then the file, then the default. -/
theorem effective_of_settings {options : Options} {files : Files} {environment : Environment}
    {settings : Settings} (hok : options.settings files environment = .ok settings)
    {scalar : Scalar} (hscalar : scalar ∈ scalars) :
    scalar.Effective options (options.layer? files) settings := by
  obtain ⟨loader, hloader, rfl, -⟩ := exists_loader_of_settings hok
  unfold Scalar.Effective
  rw [get_applyTo options loader.settings scalar hscalar]
  cases scalar.option options with
  | some value => exact rfl
  | none => exact given_of_loader hloader hscalar

/-- Variables that change nothing might as well prevail. -/
theorem documented_of_effective {options : Options} {environment : Environment}
    {layer? : Option Value} {settings : Settings} {scalar : Scalar}
    (heffective : scalar.Effective options layer? settings)
    (hidle : ∀ text value, scalar.option options = none → scalar.text? environment = some text →
      scalar.parse text = .ok value → scalar.Given layer? value) :
    scalar.Documented options environment layer? settings := by
  unfold Scalar.Effective at heffective
  unfold Scalar.Documented
  split
  case h_1 value hoption =>
    rw [hoption] at heffective
    exact heffective
  case h_2 value hoption hparse =>
    rw [hoption] at heffective
    obtain ⟨text, htext, hparse⟩ := Option.map_eq_some_iff.mp hparse
    exact heffective.unique (hidle text value hoption htext hparse)
  case h_3 hoption _ =>
    rw [hoption] at heffective
    exact heffective

/-- A variable that prevails over nothing changes nothing. -/
theorem given_of_documented {options : Options} {environment : Environment}
    {layer? : Option Value} {settings : Settings} {scalar : Scalar}
    (heffective : scalar.Effective options layer? settings)
    (hdocumented : scalar.Documented options environment layer? settings) {text : String}
    {value : scalar.field.Kind} (hoption : scalar.option options = none)
    (htext : scalar.text? environment = some text) (hparse : scalar.parse text = .ok value) :
    scalar.Given layer? value := by
  simp only [Scalar.Documented, hoption, htext, Option.map_some, hparse] at hdocumented
  simp only [Scalar.Effective, hoption, hdocumented] at heffective
  exact heffective

/-- Variables are promised to override the file, but no run reads them: the promise is kept just
where the overrides change nothing. -/
theorem asDocumented_iff (options : Options) (files : Files) (environment : Environment) :
    AsDocumented options files environment ↔
      ∀ settings, options.settings files environment = .ok settings →
        VariablesIdle options files environment := by
  constructor
  · intro hdocumented settings hok scalar hscalar
    constructor
    · intro hmalformed
      obtain ⟨report, hreport⟩ := hdocumented.refuses scalar hscalar hmalformed
      rw [hok] at hreport
      cases hreport
    · intro text value
      exact given_of_documented (effective_of_settings hok hscalar)
        ((hdocumented.prevails settings hok).2 scalar hscalar)
  · intro hidle
    constructor
    · intro settings hok
      obtain ⟨-, -, -, hvalid⟩ := exists_loader_of_settings hok
      refine ⟨hvalid, fun scalar hscalar ↦ ?_⟩
      exact documented_of_effective (effective_of_settings hok hscalar)
        (hidle settings hok scalar hscalar).2
    · intro scalar hscalar hmalformed
      cases hsettings : options.settings files environment with
      | error report => exact ⟨report, rfl⟩
      | ok settings => exact absurd hmalformed (hidle settings hsettings scalar hscalar).1

/-- An address in a variable should prevail over the default one, and is passed over. -/
theorem address_variable_passed_over :
    ¬AsDocumented {} {} [("IAM_DOCS__SERVER__HTTP_ADDR", "127.0.0.1:9000")] := by
  intro hdocumented
  have hsome : Except.toOption
      (Options.settings {} {} [("IAM_DOCS__SERVER__HTTP_ADDR", "127.0.0.1:9000")]) = some {} := by
    decide +kernel
  cases hsettings : Options.settings {} {} [("IAM_DOCS__SERVER__HTTP_ADDR", "127.0.0.1:9000")] with
  | error report =>
    rw [hsettings] at hsome
    cases hsome
  | ok settings =>
    rw [hsettings] at hsome
    cases hsome
    have haddress := (hdocumented.prevails {} hsettings).2 _ List.mem_cons_self
    have hsame : ({} : Settings).server.address = "127.0.0.1:9000" := haddress
    revert hsame
    decide

/-- The settings of a run are valid, and every scalar is what the options say, else the file of
settings, else the default.  That is what is documented of variables too just when all settings are
refused anyway or the variables would change nothing. -/
theorem settings_in_effect (options : Options) (files : Files) (environment : Environment) :
    (∀ settings, options.settings files environment = .ok settings →
      settings.validate = .ok () ∧
        ∀ scalar ∈ scalars, scalar.Effective options (options.layer? files) settings) ∧
    (AsDocumented options files environment ↔
      ∀ settings, options.settings files environment = .ok settings →
        VariablesIdle options files environment) := by
  refine ⟨fun settings hok ↦ ?_, asDocumented_iff options files environment⟩
  obtain ⟨-, -, -, hvalid⟩ := exists_loader_of_settings hok
  exact ⟨hvalid, fun scalar hscalar ↦ effective_of_settings hok hscalar⟩

end ApiReference.CommandLine
