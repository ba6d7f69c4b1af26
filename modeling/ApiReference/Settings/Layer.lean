import ApiReference.Decimal.Word
import ApiReference.Settings.Basic
import ApiReference.Settings.Error
import ApiReference.Toml.FromJson
import ApiReference.Toml.Reader
import ApiReference.Toml.Tree

/-!
# Layers

A layer is a TOML value that is put over settings: the settings are written as a TOML value, merged
with the layer, and read again.  So keys that the layer leaves out keep their values, and keys that
there are not are refused.
-/

namespace ApiReference.Settings

open Toml Decode

/-! ## Settings as TOML values -/

def integer (n : UInt64) : Except Error Value :=
  if n.toNat < Decimal.Word.signedLimit then .ok (.integer n.toNat) else .error .tooLarge

def documentValue (document : Document) : Value :=
  .table (Table.ofEntries [("name", .text document.name), ("url", .text document.url)])

def Server.toValue (server : Server) : Except Error Value := do
  let shutdownSeconds ← integer server.shutdownSeconds
  let requestMillis ← integer server.requestMillis
  return .table (Table.ofEntries
    [("http_addr", .text server.address), ("shutdown_timeout_secs", shutdownSeconds),
      ("request_timeout_ms", requestMillis)])

/-- The viewer section as a TOML table.  A base that is not set is left out. -/
def Viewer.toValue (viewer : Viewer) : Value :=
  .table (Table.ofEntries
    ([("title", .text viewer.title), ("default_url", .text viewer.defaultUrl),
      ("render_target", .text viewer.target), ("doc_expansion", .text viewer.expansion.name),
      ("display_request_duration", .flag viewer.showDuration),
      ("swagger_version", .text viewer.version)] ++
    (viewer.assetBase.toList.map fun base ↦ ("asset_base_url", .text base)) ++
    [("documents", .array (viewer.documents.map documentValue))]))

def Logging.toValue (logging : Logging) : Value :=
  .table (Table.ofEntries
    [("enabled", .flag logging.enabled), ("level", .text logging.level),
      ("format", .text logging.format.name), ("ansi_enabled", .flag logging.ansi),
      ("include_location", .flag logging.location)])

def toValue (settings : Settings) : Except Error Value := do
  let server ← settings.server.toValue
  return .table (Table.ofEntries
    [("server", server), ("viewer", settings.viewer.toValue),
      ("logging", settings.logging.toValue)])

def ofValue (value : Value) : Except Refusal Settings :=
  (Source.record shape : FromTree Value Settings) value

/-! ## Merging -/

/-- Settings with a layer over them. -/
def overlay (settings : Settings) (layer : Value) : Except Error Settings := do
  let base ← settings.toValue
  match ofValue (base.merge layer) with
  | .ok merged => .ok merged
  | .error refusal => .error (.toml (.refused refusal))

/-- The languages that a layer may be written in. -/
inductive Language where
  | toml
  | json
  deriving Repr, DecidableEq

/-- The language with a name, in any case. -/
def Language.ofName? (name : String) : Option Language :=
  [("toml", Language.toml), ("json", Language.json)].lookup (Text.lower name)

def readLayer (language : Language) (text : String) : Except Error Value :=
  match language with
  | .toml =>
    match Value.read? text with
    | some value => .ok value
    | none => .error (.toml .malformed)
  | .json => (Value.readJson text).mapError .json

/-- Settings with the layer of a text over them, the language being named. -/
def overlayText (settings : Settings) (text format : String) : Except Error Settings := do
  match Language.ofName? format with
  | some language => settings.overlay (← readLayer language text)
  | none => .error (.invalid ("unsupported configuration format: " ++ format))

end ApiReference.Settings
