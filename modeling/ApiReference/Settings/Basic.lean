import ApiReference.Page
import ApiReference.Selector

/-!
# Settings

The settings of the service in three sections: where it listens, what the viewer shows, and what is
logged.  Each section is read from any source of structured data; a member that is left out has its
default, and a member that there is not is refused.
-/

namespace ApiReference

open Decode Json

/-- How log lines are written. -/
inductive LogFormat where
  | json
  | pretty
  deriving Repr, DecidableEq

def LogFormat.name : LogFormat → String
  | .json => "json"
  | .pretty => "pretty"

def LogFormat.options : List (String × LogFormat) :=
  [("json", .json), ("pretty", .pretty)]

namespace Settings

/-- Where the service listens and how long it waits. -/
structure Server where
  address : String := "0.0.0.0:8080"
  shutdownSeconds : UInt64 := 30
  requestMillis : UInt64 := 30000
  deriving Repr, DecidableEq

/-- What the viewer shows. -/
structure Viewer where
  title : String := "IAM API Reference"
  defaultUrl : String := Catalog.defaultUrl
  target : String := ViewerOptions.defaultTarget
  expansion : Expansion := .list
  showDuration : Bool := false
  version : String := Frontend.defaultVersion
  assetBase : Option String := none
  documents : List Document := Catalog.platform.documents
  deriving Repr, DecidableEq

/-- What is logged. -/
structure Logging where
  enabled : Bool := true
  level : String := "info"
  format : LogFormat := .json
  ansi : Bool := false
  location : Bool := false
  deriving Repr, DecidableEq

end Settings

/-- The settings of the service. -/
structure Settings where
  server : Settings.Server := {}
  viewer : Settings.Viewer := {}
  logging : Settings.Logging := {}
  deriving Repr, DecidableEq

namespace Settings

/-! ## Presets -/

/-- The settings for development: a local address, all debugging output and request durations. -/
def development : Settings where
  server := { address := "127.0.0.1:8080" }
  viewer := { showDuration := true }
  logging := { level := "debug", format := .pretty, ansi := true, location := true }

def production : Settings where
  logging := { level := "info", format := .json, ansi := false }

/-! ## Reading -/

section

variable {m : Type → Type} [Source m]

def Server.shape : Shape m Server where
  title := "ServerConfig"
  members :=
    [defaulted "http_addr" Source.text fun address server ↦ { server with address },
      defaulted "shutdown_timeout_secs" Source.count
        fun shutdownSeconds server ↦ { server with shutdownSeconds },
      defaulted "request_timeout_ms" Source.count
        fun requestMillis server ↦ { server with requestMillis }]
  strict := true
  initial := {}

def Viewer.shape : Shape m Viewer where
  title := "ViewerSection"
  members :=
    [defaulted "title" Source.text fun title viewer ↦ { viewer with title },
      defaulted "default_url" Source.text fun defaultUrl viewer ↦ { viewer with defaultUrl },
      defaulted "render_target" Source.text fun target viewer ↦ { viewer with target },
      defaulted "doc_expansion" (Source.choice Expansion.options)
        fun expansion viewer ↦ { viewer with expansion },
      defaulted "display_request_duration" Source.flag
        fun showDuration viewer ↦ { viewer with showDuration },
      defaulted "swagger_version" Source.text fun version viewer ↦ { viewer with version },
      defaulted "asset_base_url" (Source.optional Source.text)
        fun assetBase viewer ↦ { viewer with assetBase },
      defaulted "documents" (Source.list (Source.record Document.shape))
        fun documents viewer ↦ { viewer with documents }]
  strict := true
  initial := {}

def Logging.shape : Shape m Logging where
  title := "LoggingConfig"
  members :=
    [defaulted "enabled" Source.flag fun enabled logging ↦ { logging with enabled },
      defaulted "level" Source.text fun level logging ↦ { logging with level },
      defaulted "format" (Source.choice LogFormat.options)
        fun format logging ↦ { logging with format },
      defaulted "ansi_enabled" Source.flag fun ansi logging ↦ { logging with ansi },
      defaulted "include_location" Source.flag fun location logging ↦ { logging with location }]
  strict := true
  initial := {}

def shape : Shape m Settings where
  title := "DocsServiceConfig"
  members :=
    [defaulted "server" (Source.record Server.shape)
        fun server settings ↦ { settings with server },
      defaulted "viewer" (Source.record Viewer.shape)
        fun viewer settings ↦ { settings with viewer },
      defaulted "logging" (Source.record Logging.shape)
        fun logging settings ↦ { settings with logging }]
  strict := true
  initial := {}

end

/-! ## Writing as JSON -/

def Server.toJson (server : Server) : Value :=
  .object
    [("http_addr", .text server.address),
      ("shutdown_timeout_secs", .ofNat server.shutdownSeconds.toNat),
      ("request_timeout_ms", .ofNat server.requestMillis.toNat)]

def Viewer.toJson (viewer : Viewer) : Value :=
  .object
    [("title", .text viewer.title), ("default_url", .text viewer.defaultUrl),
      ("render_target", .text viewer.target), ("doc_expansion", .text viewer.expansion.name),
      ("display_request_duration", .flag viewer.showDuration),
      ("swagger_version", .text viewer.version), ("asset_base_url", .ofText? viewer.assetBase),
      ("documents", .array (viewer.documents.map Document.toJson))]

def Logging.toJson (logging : Logging) : Value :=
  .object
    [("enabled", .flag logging.enabled), ("level", .text logging.level),
      ("format", .text logging.format.name), ("ansi_enabled", .flag logging.ansi),
      ("include_location", .flag logging.location)]

def toJson (settings : Settings) : Value :=
  .object
    [("server", settings.server.toJson), ("viewer", settings.viewer.toJson),
      ("logging", settings.logging.toJson)]

/-! ## Using -/

namespace Viewer

def catalog (viewer : Viewer) : Except DocumentError Catalog :=
  Catalog.ofDocuments viewer.documents

/-- The selector of the first document. -/
def selector (viewer : Viewer) : Except DocumentError Selector := do
  let catalog ← viewer.catalog
  return {
    defaultUrl := viewer.defaultUrl
    catalog
    target := viewer.target
    behavior := { expansion := viewer.expansion, showDuration := viewer.showDuration } }

/-- The page around the viewer. -/
def frontend (viewer : Viewer) : Frontend where
  title := viewer.title
  version := viewer.version
  assetBase := viewer.assetBase

end Viewer

end Settings

end ApiReference
