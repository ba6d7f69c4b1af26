import ApiReference.Decimal.Word
import ApiReference.Settings.Basic
import ApiReference.Settings.Error
import ApiReference.Text.Digits
import ApiReference.Text.Split

/-!
# Overrides from the Environment

A variable `PREFIX__SECTION__KEY` sets one scalar of the settings.  Variables that belong to no
scalar are passed over, and a value that is malformed is refused.
-/

namespace ApiReference.Settings

open Text

/-- The variables of a process, by name. -/
abbrev Environment := List (String × String)

/-- The number below `2^64` that a text spells. -/
def parseCount (text : String) : Except String UInt64 :=
  match decimal? text.toList with
  | some value =>
    if value < Decimal.Word.limit then .ok value.toUInt64 else .error "expected integer"
  | none => .error "expected integer"

/-- The truth value that a word spells in any case. -/
def parseFlag (text : String) : Except String Bool :=
  let word := lower text
  if word ∈ ["true", "1", "yes", "on"] then .ok true
  else if word ∈ ["false", "0", "no", "off"] then .ok false
  else .error "expected boolean"

/-- The log format that a word spells in any case. -/
def parseFormat (text : String) : Except String LogFormat :=
  match LogFormat.options.lookup (lower text) with
  | some format => .ok format
  | none => .error "expected 'json' or 'pretty'"

/-- A text of its own, or nothing for the empty one. -/
def parseBase (text : String) : Option String :=
  if text.isEmpty then none else some text

/-- One scalar of the settings: the variable that sets it, without the beginning that all share, and
what a value of the variable does. -/
structure Override where
  name : String
  apply : String → Settings → Except String Settings

namespace Override

def server (key : String) (parse : String → Except String α) (set : α → Server → Server) :
    Override where
  name := "SERVER__" ++ key
  apply text settings := do return { settings with server := set (← parse text) settings.server }

def viewer (key : String) (parse : String → Except String α) (set : α → Viewer → Viewer) :
    Override where
  name := "VIEWER__" ++ key
  apply text settings := do return { settings with viewer := set (← parse text) settings.viewer }

def logging (key : String) (parse : String → Except String α) (set : α → Logging → Logging) :
    Override where
  name := "LOGGING__" ++ key
  apply text settings := do return { settings with logging := set (← parse text) settings.logging }

def all : List Override :=
  [server "HTTP_ADDR" pure fun address server ↦ { server with address },
    server "SHUTDOWN_TIMEOUT_SECS" parseCount
      fun shutdownSeconds server ↦ { server with shutdownSeconds },
    server "REQUEST_TIMEOUT_MS" parseCount
      fun requestMillis server ↦ { server with requestMillis },
    viewer "TITLE" pure fun title viewer ↦ { viewer with title },
    viewer "DEFAULT_URL" pure fun defaultUrl viewer ↦ { viewer with defaultUrl },
    viewer "RENDER_TARGET" pure fun target viewer ↦ { viewer with target },
    viewer "DOC_EXPANSION" Expansion.ofText fun expansion viewer ↦ { viewer with expansion },
    viewer "DISPLAY_REQUEST_DURATION" parseFlag
      fun showDuration viewer ↦ { viewer with showDuration },
    viewer "SWAGGER_VERSION" pure fun version viewer ↦ { viewer with version },
    viewer "ASSET_BASE_URL" (fun text ↦ pure (parseBase text))
      fun assetBase viewer ↦ { viewer with assetBase },
    logging "ENABLED" parseFlag fun enabled logging ↦ { logging with enabled },
    logging "LEVEL" pure fun level logging ↦ { logging with level },
    logging "FORMAT" parseFormat fun format logging ↦ { logging with format },
    logging "ANSI_ENABLED" parseFlag fun ansi logging ↦ { logging with ansi },
    logging "INCLUDE_LOCATION" parseFlag fun location logging ↦ { logging with location }]

/-- The scalar that a key sets, the key being cut at its double underscores. -/
def find? (parts : List (List Char)) : Option Override :=
  all.find? fun override ↦ splitPaired '_' override.name.toList == parts

end Override

/-- Whether a variable has a beginning with two underscores behind it. -/
def isScoped (beginning name : String) : Bool :=
  (beginning ++ "__").toList.isPrefixOf name.toList

/-- The key of a variable: its name after a beginning and two underscores. -/
def key? (beginning name : String) : Option (List Char) := do
  dropBeginning? ['_', '_'] (← dropBeginning? beginning.toList name.toList)

/-- What is said of a variable without a key. -/
def keyFormatText : String := "invalid key format"

def withVariable (beginning : String) (settings : Settings) (entry : String × String) :
    Except Error Settings :=
  match key? beginning entry.1 with
  | none => .error (.malformedVariable entry.1 keyFormatText)
  | some key =>
    match Override.find? (splitPaired '_' key) with
    | none => .ok settings
    | some override => (override.apply entry.2 settings).mapError (.malformedVariable entry.1)

/-- Settings with the values of the variables with a beginning, one after another. -/
def withEnvironment (beginning : String) (settings : Settings) (environment : Environment) :
    Except Error Settings :=
  (environment.filter fun entry ↦ isScoped beginning entry.1).foldlM (withVariable beginning)
    settings

end ApiReference.Settings
