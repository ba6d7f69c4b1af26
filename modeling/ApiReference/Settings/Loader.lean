import ApiReference.Settings.Dotenv
import ApiReference.Settings.Layer
import ApiReference.Settings.Validation

/-!
# Loading Settings

A loader starts from a preset and puts layers over it, one step after another.  At the end the
variables with its beginning override single values, and the settings are validated.
-/

namespace ApiReference.Settings

open Text

/-- The state of a loader. -/
structure Loader where
  settings : Settings := {}
  beginning : Option String := none
  fileLoaded : Bool := false
  deriving Repr, DecidableEq

/-- A step of a loader. -/
inductive Step where
  | defaults
  | development
  | production
  | dotenv
  | text (content format : String)
  | file (path : String)
  | optionalFile (path : String)
  | overrides (beginning : String)
  deriving Repr, DecidableEq

namespace Loader

/-- The loader with the layer of a text over its settings. -/
def withText (loader : Loader) (content format : String) : Except Error Loader := do
  return { loader with settings := ← loader.settings.overlayText content format }

/-- The loader with the layer of a file over its settings. -/
def withFile (loader : Loader) (files : Files) (path : String) : Except Error Loader := do
  match files.find? path with
  | none => .error (.fileNotFound path)
  | some .directory => .error (.unreadable path .isDirectory)
  | some (.file bytes) =>
    match Utf8.decode? bytes with
    | none => .error (.unreadable path .notText)
    | some cs =>
      match (Files.extension? path).bind Language.ofName? with
      | none => .error (.invalid ("unsupported configuration file format: " ++ path))
      | some language =>
        let layer ← readLayer language (String.ofList cs)
        return { loader with settings := ← loader.settings.overlay layer, fileLoaded := true }

/-- The loader with the layer of a file over its settings, if the file is there. -/
def withOptionalFile (loader : Loader) (files : Files) (path : String) : Except Error Loader :=
  if (files.find? path).isSome then loader.withFile files path else .ok loader

def dotenv (files : Files) (environment : Environment) : Except Error Environment :=
  match Dotenv.load files environment with
  | (environment, .ok ()) => .ok environment
  | (_, .error failure) => .error (.invalid ("failed to load .env file: " ++ failure.message))

def run (files : Files) (state : Loader × Environment) : Step → Except Error (Loader × Environment)
  | .defaults => .ok ({ state.1 with settings := {} }, state.2)
  | .development => .ok ({ state.1 with settings := development }, state.2)
  | .production => .ok ({ state.1 with settings := production }, state.2)
  | .dotenv => (dotenv files state.2).map fun environment ↦ (state.1, environment)
  | .text content format => (state.1.withText content format).map fun loader ↦ (loader, state.2)
  | .file path => (state.1.withFile files path).map fun loader ↦ (loader, state.2)
  | .optionalFile path =>
    (state.1.withOptionalFile files path).map fun loader ↦ (loader, state.2)
  | .overrides beginning => .ok ({ state.1 with beginning := some (upper beginning) }, state.2)

/-- The settings with the overrides of the variables, if the loader has a beginning for them. -/
def overridden (loader : Loader) (environment : Environment) : Except Error Settings :=
  match loader.beginning with
  | some beginning => withEnvironment beginning loader.settings environment
  | none => .ok loader.settings

/-- The settings with the overrides of the variables, if they are valid. -/
def load (loader : Loader) (environment : Environment) : Except Error Settings := do
  let settings ← loader.overridden environment
  settings.validate
  return settings

end Loader

end ApiReference.Settings
