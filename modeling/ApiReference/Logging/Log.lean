import ApiReference.Logging.Filter
import ApiReference.Selector
import ApiReference.Settings.Basic

/-!
# The Log of a Process

A process has at most one collector of events.  The first set-up that is accepted installs it, and
every event that its filter admits from then on is kept.  A set-up that is refused, and one that is
switched off, leave the log as it was.
-/

namespace ApiReference.Logging

/-- How events are collected and written. -/
structure Config where
  enabled : Bool := true
  level : String := "info"
  format : LogFormat := .json
  spans : Bool := false
  location : Bool := false
  ansi : Bool := false
  showTarget : Bool := true
  service : String := "iam-docs"
  deriving Repr, DecidableEq

namespace Config

/-- Compact lines without debugging output. -/
def production : Config := {}

/-- Lines for human readers with debugging output. -/
def development : Config where
  level := "debug"
  format := .pretty
  spans := true
  location := true
  ansi := true

/-- The configuration that a logging section of a service describes. -/
def ofSection (logging : Settings.Logging) (service : String) : Config :=
  let base := match logging.format with
    | .json => production
    | .pretty => development
  { base with
    enabled := logging.enabled
    level := logging.level
    format := logging.format
    location := logging.location
    ansi := logging.ansi
    service }

end Config

/-- Why a set-up is refused. -/
inductive Error where
  | blankService
  | filter (error : DirectiveError)
  | alreadySetUp
  deriving Repr, DecidableEq

def DirectiveError.filterMessage (error : DirectiveError) : String :=
  "Failed to initialize logging: Invalid log level: " ++ error.message

def Error.message : Error → String
  | .blankService => "Invalid configuration: service name must not be empty"
  | .filter error => error.filterMessage
  | .alreadySetUp =>
    "Failed to initialize logging: a global default trace dispatcher has already been set"

/-! ## Events -/

namespace Event

def started (service : String) : Event where
  level := .debug
  target := "iam_docs_telemetry::logging"
  message := "logging initialized"
  fields := [("service.name", .text service)]

/-- The event of choosing the first document of a page load. -/
def documentSelected (selector : Selector) (options : ViewerOptions) : Event where
  level := .debug
  target := "iam_docs::selector"
  message := "selected document source"
  fields :=
    [("initial_url", .text options.url), ("primary", .text (options.primaryName.getD "-")),
      ("overridden", .flag (options.url != selector.defaultUrl))]

def requestCompleted (target method path : String) (status millis : Nat) : Event where
  level := .info
  target := target
  message := "Request completed"
  fields :=
    [("http.method", .text method), ("http.path", .text path),
      ("http.status_code", .ofNat status), ("duration_ms", .ofNat millis)]

def requestFailed (target method path error : String) : Event where
  level := .error
  target := target
  message := "Request failed"
  fields := [("http.method", .text method), ("http.path", .text path), ("error", .text error)]

end Event

/-! ## Set-up -/

/-- What is installed by a set-up. -/
structure Collector where
  filter : Filter
  config : Config
  deriving Repr, DecidableEq

/-- The collector of a process, if there is one, and the events that it kept. -/
structure Log where
  collector : Option Collector := none
  events : List Event := []
  deriving Repr

namespace Log

def record (log : Log) (event : Event) : Log :=
  if log.collector.any fun collector ↦ collector.filter.admits event then
    { log with events := log.events ++ [event] }
  else log

def setUp (log : Log) (config : Config) : Except Error Log :=
  if !config.enabled then .ok log
  else if Text.isBlank config.service then .error .blankService
  else
    match Filter.parse config.level with
    | .error error => .error (.filter error)
    | .ok filter =>
      if log.collector.isSome then .error .alreadySetUp
      else .ok (record { log with collector := some ⟨filter, config⟩ } (.started config.service))

end Log

end ApiReference.Logging
