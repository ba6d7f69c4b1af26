import ApiReference.CommandLine.Arguments
import ApiReference.Proofs.Settings.Overlay

/-!
# Scalars of the Settings

Every scalar of the settings is a field of a section, and has a variable that may override it.  Some
of them have an option of the command line as well.
-/

namespace ApiReference.Settings

open CommandLine Toml Decode

/-- A scalar of the settings: its field, the variable that overrides it, without the beginning that
all share, what the value of the variable stands for, and the option that sets it. -/
structure Scalar where
  part : Part Value
  field : Field Value part.Record
  name : String
  parse : String → Except String field.Kind
  option : Options → Option field.Kind

namespace Scalar

/-- The scalar of some settings. -/
def get (scalar : Scalar) (settings : Settings) : scalar.field.Kind :=
  scalar.field.get (scalar.part.get settings)

def set (scalar : Scalar) (value : scalar.field.Kind) (settings : Settings) : Settings :=
  scalar.part.set (scalar.field.set value (scalar.part.get settings)) settings

def override (scalar : Scalar) : Override where
  name := scalar.name
  apply text settings := do return scalar.set (← scalar.parse text) settings

end Scalar

/-- The scalars of the settings. -/
def scalars : List Scalar :=
  [⟨serverPart, Server.addressField, "SERVER__HTTP_ADDR", pure, Options.address⟩,
    ⟨serverPart, Server.shutdownSecondsField, "SERVER__SHUTDOWN_TIMEOUT_SECS", parseCount,
      fun _ ↦ none⟩,
    ⟨serverPart, Server.requestMillisField, "SERVER__REQUEST_TIMEOUT_MS", parseCount,
      fun _ ↦ none⟩,
    ⟨viewerPart, Viewer.titleField, "VIEWER__TITLE", pure, fun _ ↦ none⟩,
    ⟨viewerPart, Viewer.defaultUrlField, "VIEWER__DEFAULT_URL", pure, fun _ ↦ none⟩,
    ⟨viewerPart, Viewer.targetField, "VIEWER__RENDER_TARGET", pure, fun _ ↦ none⟩,
    ⟨viewerPart, Viewer.expansionField, "VIEWER__DOC_EXPANSION", Expansion.ofText, fun _ ↦ none⟩,
    ⟨viewerPart, Viewer.showDurationField, "VIEWER__DISPLAY_REQUEST_DURATION", parseFlag,
      fun _ ↦ none⟩,
    ⟨viewerPart, Viewer.versionField, "VIEWER__SWAGGER_VERSION", pure, fun _ ↦ none⟩,
    ⟨viewerPart, Viewer.assetBaseField, "VIEWER__ASSET_BASE_URL", fun text ↦ pure (parseBase text),
      fun _ ↦ none⟩,
    ⟨loggingPart, Logging.enabledField, "LOGGING__ENABLED", parseFlag, fun _ ↦ none⟩,
    ⟨loggingPart, Logging.levelField, "LOGGING__LEVEL", pure, Options.level⟩,
    ⟨loggingPart, Logging.formatField, "LOGGING__FORMAT", parseFormat, Options.format⟩,
    ⟨loggingPart, Logging.ansiField, "LOGGING__ANSI_ENABLED", parseFlag, fun _ ↦ none⟩,
    ⟨loggingPart, Logging.locationField, "LOGGING__INCLUDE_LOCATION", parseFlag, fun _ ↦ none⟩]

/-- The variables that override something are those of the scalars. -/
theorem all_overrides : Override.all = scalars.map Scalar.override :=
  rfl

theorem scalars_mem_parts : ∀ scalar ∈ scalars,
    scalar.part ∈ parts ∧ scalar.field ∈ scalar.part.fields := by
  simp [scalars, parts, Server.fields, Viewer.fields, Logging.fields]

/-- Every field of a section is a scalar, but for the documents. -/
theorem mem_scalars : ∀ part ∈ parts (V := Value), ∀ field ∈ part.fields,
    field.key ≠ "documents" → ∃ scalar ∈ scalars, scalar.part.name = part.name ∧
      scalar.field.key = field.key := by
  simp [scalars, parts, Server.fields, Viewer.fields, Logging.fields]

/-! ## Sources of a scalar -/

/-- The beginning of the variables that are to override scalars. -/
def variableBeginning : String := "IAM_DOCS"

namespace Scalar

def text? (scalar : Scalar) (environment : Environment) : Option String :=
  environment.lookup (variableBeginning ++ "__" ++ scalar.name)

/-- The variable of a scalar is set, but its value is malformed. -/
def Malformed (scalar : Scalar) (environment : Environment) : Prop :=
  ∃ text reason, scalar.text? environment = some text ∧ scalar.parse text = .error reason

/-- A scalar is what a layer says, or the default if the layer does not name it. -/
def Given (scalar : Scalar) (layer? : Option Value) (value : scalar.field.Kind) : Prop :=
  match layer?.bind fun layer ↦ scalar.part.found? layer scalar.field.key with
  | some found => scalar.field.read found = .ok value
  | none => value = scalar.get {}

/-- A layer gives a scalar one value. -/
theorem Given.unique {scalar : Scalar} {layer? : Option Value} {value other : scalar.field.Kind}
    (hvalue : scalar.Given layer? value) (hother : scalar.Given layer? other) : value = other := by
  unfold Given at hvalue hother
  split at hvalue
  case h_1 found hfound =>
    rw [hfound] at hother
    exact Except.ok.inj (hvalue.symm.trans hother)
  case h_2 hfound =>
    rw [hfound] at hother
    exact hvalue.trans hother.symm

/-- A scalar is taken from the options first and from a layer next. -/
def Effective (scalar : Scalar) (options : Options) (layer? : Option Value) (settings : Settings) :
    Prop :=
  match scalar.option options with
  | some value => scalar.get settings = value
  | none => scalar.Given layer? (scalar.get settings)

/-- A scalar is taken from the options first, from its variable next, and then from a layer. -/
def Documented (scalar : Scalar) (options : Options) (environment : Environment)
    (layer? : Option Value) (settings : Settings) : Prop :=
  match scalar.option options, (scalar.text? environment).map scalar.parse with
  | some value, _ => scalar.get settings = value
  | none, some (.ok value) => scalar.get settings = value
  | none, _ => scalar.Given layer? (scalar.get settings)

end Scalar

end ApiReference.Settings
