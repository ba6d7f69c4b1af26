import ApiReference.Catalog
import ApiReference.Decode.Tree
import ApiReference.Json.Fault
import ApiReference.Toml.Tree

/-!
# What Is Wrong with Settings

The causes for which settings are refused, each with its wording, and the causes behind it.
-/

namespace ApiReference.Settings

open Decode

/-- Why a file that is there cannot be read as text. -/
inductive ReadFailure where
  | isDirectory
  | notText
  deriving Repr, DecidableEq

def ReadFailure.message : ReadFailure → String
  | .isDirectory => "Is a directory (os error 21)"
  | .notText => "stream did not contain valid UTF-8"

/-- Why a TOML layer is refused: its text is no TOML, or it does not fit the settings. -/
inductive TomlFailure where
  | malformed
  | refused (refusal : Refusal)
  deriving Repr, DecidableEq

/-- The wording of a refused layer.  A malformed text has the wording's first words only, as what
follows them quotes the text. -/
def TomlFailure.message : TomlFailure → String
  | .malformed => "TOML parse error"
  | .refused refusal => Toml.refusalMessage refusal

/-- Why settings are refused. -/
inductive Error where
  | fileNotFound (path : String)
  | unreadable (path : String) (failure : ReadFailure)
  | toml (failure : TomlFailure)
  | tooLarge
  | json (fault : Json.Fault)
  | invalidValue (field reason : String)
  | malformedVariable (name reason : String)
  | catalog (error : DocumentError)
  | invalid (reason : String)
  deriving Repr, DecidableEq

/-- What is said of a number that TOML cannot hold. -/
def tooLargeText : String := "out-of-range value for u64 type"

def Error.message : Error → String
  | .fileNotFound path => "configuration file not found: " ++ path
  | .unreadable path _ => "failed to read configuration file: " ++ path
  | .toml failure => "failed to parse TOML configuration: " ++ failure.message
  | .tooLarge => "failed to serialize configuration: " ++ tooLargeText
  | .json fault => "failed to parse JSON configuration: " ++ fault.message
  | .invalidValue field reason => "invalid configuration value for " ++ field ++ ": " ++ reason
  | .malformedVariable name reason =>
    "failed to parse environment variable " ++ name ++ ": " ++ reason
  | .catalog error => "invalid document catalog: " ++ error.message
  | .invalid reason => "configuration validation failed: " ++ reason

/-- The wording of the cause behind a refusal, if there is one. -/
def Error.source? : Error → Option String
  | .unreadable _ failure => some failure.message
  | .toml failure => some failure.message
  | .tooLarge => some tooLargeText
  | .json fault => some fault.message
  | .catalog error => some error.message
  | _ => none

end ApiReference.Settings
