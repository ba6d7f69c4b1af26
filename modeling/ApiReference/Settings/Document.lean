import ApiReference.Decimal.Word
import ApiReference.Settings.Basic
import ApiReference.Toml.Printer

/-!
# Settings as a TOML Document

The document has a header for each section and one for each document of the catalog.  A number that
TOML cannot hold stops the writing.
-/

namespace ApiReference.Settings

open Toml

/-- A number as it is written, if TOML can hold it. -/
def printedCount? (n : UInt64) : Option Plain :=
  if n.toNat < Decimal.Word.signedLimit then some (.integer n.toNat) else none

/-- What is written of the server section. -/
def Server.pairs? (server : Server) : Option (List (String × Plain)) := do
  let shutdownSeconds ← printedCount? server.shutdownSeconds
  let requestMillis ← printedCount? server.requestMillis
  return [("http_addr", .text server.address), ("shutdown_timeout_secs", shutdownSeconds),
    ("request_timeout_ms", requestMillis)]

/-- What is written of the viewer section under its own header. -/
def Viewer.pairs (viewer : Viewer) : List (String × Plain) :=
  [("title", .text viewer.title), ("default_url", .text viewer.defaultUrl),
    ("render_target", .text viewer.target), ("doc_expansion", .text viewer.expansion.name),
    ("display_request_duration", .flag viewer.showDuration),
    ("swagger_version", .text viewer.version)] ++
  (viewer.assetBase.toList.map fun base ↦ ("asset_base_url", .text base)) ++
  if viewer.documents.isEmpty then [("documents", .emptyArray)] else []

def documentPairs (document : Document) : List (String × Plain) :=
  [("name", .text document.name), ("url", .text document.url)]

def Logging.pairs (logging : Logging) : List (String × Plain) :=
  [("enabled", .flag logging.enabled), ("level", .text logging.level),
    ("format", .text logging.format.name), ("ansi_enabled", .flag logging.ansi),
    ("include_location", .flag logging.location)]

/-- The blocks of a document that holds the settings. -/
def blocks? (settings : Settings) : Option (List Block) := do
  let server ← settings.server.pairs?
  return [⟨["server"], false, server⟩, ⟨["viewer"], false, settings.viewer.pairs⟩] ++
    (settings.viewer.documents.map fun document ↦
      ⟨["viewer", "documents"], true, documentPairs document⟩) ++
    [⟨["logging"], false, settings.logging.pairs⟩]

/-- The settings as a TOML document. -/
def toDocument? (settings : Settings) : Option String :=
  settings.blocks?.map fun blocks ↦ String.ofList (printBlocks blocks)

end ApiReference.Settings
