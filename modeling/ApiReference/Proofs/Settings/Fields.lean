import ApiReference.Proofs.Toml.Records
import ApiReference.Settings.Layer

/-!
# Fields of the Settings

The settings are made of three sections, and each section of its fields.  Settings that are written
as a table are read from it again.
-/

namespace ApiReference.Settings

open Decode Toml

/-! ## Sections -/

section

variable {V : Type} [DataTree V]

namespace Server

abbrev addressField : Field V Server :=
  ⟨String, "http_addr", Source.text, address, fun address server ↦ { server with address }⟩

abbrev shutdownSecondsField : Field V Server :=
  ⟨UInt64, "shutdown_timeout_secs", Source.count, shutdownSeconds,
    fun shutdownSeconds server ↦ { server with shutdownSeconds }⟩

abbrev requestMillisField : Field V Server :=
  ⟨UInt64, "request_timeout_ms", Source.count, requestMillis,
    fun requestMillis server ↦ { server with requestMillis }⟩

def fields : List (Field V Server) :=
  [addressField, shutdownSecondsField, requestMillisField]

end Server

namespace Viewer

abbrev titleField : Field V Viewer :=
  ⟨String, "title", Source.text, title, fun title viewer ↦ { viewer with title }⟩

abbrev defaultUrlField : Field V Viewer :=
  ⟨String, "default_url", Source.text, defaultUrl,
    fun defaultUrl viewer ↦ { viewer with defaultUrl }⟩

abbrev targetField : Field V Viewer :=
  ⟨String, "render_target", Source.text, target, fun target viewer ↦ { viewer with target }⟩

abbrev expansionField : Field V Viewer :=
  ⟨Expansion, "doc_expansion", Source.choice Expansion.options, expansion,
    fun expansion viewer ↦ { viewer with expansion }⟩

abbrev showDurationField : Field V Viewer :=
  ⟨Bool, "display_request_duration", Source.flag, showDuration,
    fun showDuration viewer ↦ { viewer with showDuration }⟩

abbrev versionField : Field V Viewer :=
  ⟨String, "swagger_version", Source.text, version, fun version viewer ↦ { viewer with version }⟩

abbrev assetBaseField : Field V Viewer :=
  ⟨Option String, "asset_base_url", Source.optional Source.text, assetBase,
    fun assetBase viewer ↦ { viewer with assetBase }⟩

abbrev documentsField : Field V Viewer :=
  ⟨List Document, "documents", Source.list (Source.record Document.shape), documents,
    fun documents viewer ↦ { viewer with documents }⟩

def fields : List (Field V Viewer) :=
  [titleField, defaultUrlField, targetField, expansionField, showDurationField, versionField,
    assetBaseField, documentsField]

end Viewer

namespace Logging

abbrev enabledField : Field V Logging :=
  ⟨Bool, "enabled", Source.flag, enabled, fun enabled logging ↦ { logging with enabled }⟩

abbrev levelField : Field V Logging :=
  ⟨String, "level", Source.text, level, fun level logging ↦ { logging with level }⟩

abbrev formatField : Field V Logging :=
  ⟨LogFormat, "format", Source.choice LogFormat.options, format,
    fun format logging ↦ { logging with format }⟩

abbrev ansiField : Field V Logging :=
  ⟨Bool, "ansi_enabled", Source.flag, ansi, fun ansi logging ↦ { logging with ansi }⟩

abbrev locationField : Field V Logging :=
  ⟨Bool, "include_location", Source.flag, location,
    fun location logging ↦ { logging with location }⟩

def fields : List (Field V Logging) :=
  [enabledField, levelField, formatField, ansiField, locationField]

end Logging

/-- A section of the settings. -/
structure Part (V : Type) where
  Record : Type
  name : String
  shape : Shape (FromTree V) Record
  fields : List (Field V Record)
  get : Settings → Record
  set : Record → Settings → Settings

/-- A section as a field of the settings. -/
def Part.field (part : Part V) : Field V Settings :=
  ⟨part.Record, part.name, Source.record part.shape, part.get, part.set⟩

abbrev serverPart : Part V :=
  ⟨Server, "server", Server.shape, Server.fields, server,
    fun server settings ↦ { settings with server }⟩

abbrev viewerPart : Part V :=
  ⟨Viewer, "viewer", Viewer.shape, Viewer.fields, viewer,
    fun viewer settings ↦ { settings with viewer }⟩

abbrev loggingPart : Part V :=
  ⟨Logging, "logging", Logging.shape, Logging.fields, logging,
    fun logging settings ↦ { settings with logging }⟩

def parts : List (Part V) :=
  [serverPart, viewerPart, loggingPart]

theorem Server.consists : Server.shape.Consists (Server.fields (V := V)) where
  members := rfl
  strict := rfl
  distinct := by simp [Server.fields]
  get_set := by simp [Server.fields]
  get_set_of_ne := by simp [Server.fields]
  complete record other h := by
    cases record
    cases other
    simpa [Server.fields] using h

theorem Viewer.consists : Viewer.shape.Consists (Viewer.fields (V := V)) where
  members := rfl
  strict := rfl
  distinct := by simp [Viewer.fields]
  get_set := by simp [Viewer.fields]
  get_set_of_ne := by simp [Viewer.fields]
  complete record other h := by
    cases record
    cases other
    simpa [Viewer.fields] using h

theorem Logging.consists : Logging.shape.Consists (Logging.fields (V := V)) where
  members := rfl
  strict := rfl
  distinct := by simp [Logging.fields]
  get_set := by simp [Logging.fields]
  get_set_of_ne := by simp [Logging.fields]
  complete record other h := by
    cases record
    cases other
    simpa [Logging.fields] using h

/-- The three parts have no other fields than those listed. -/
theorem parts_consist : ∀ part ∈ parts (V := V), part.shape.Consists part.fields := by
  simp only [parts, List.forall_mem_cons]
  exact ⟨Server.consists, Viewer.consists, Logging.consists, by simp⟩

theorem consists : Settings.shape.Consists ((parts (V := V)).map Part.field) where
  members := rfl
  strict := rfl
  distinct := by simp [parts, Part.field]
  get_set := by simp [parts, Part.field]
  get_set_of_ne := by simp [parts, Part.field]
  complete record other h := by
    cases record
    cases other
    simpa [parts, Part.field] using h

namespace Part

variable {part other : Part V} (hpart : part ∈ parts) (hother : other ∈ parts)

include hpart

theorem get_set (record : part.Record) (settings : Settings) :
    part.get (part.set record settings) = record :=
  consists.get_set part.field (List.mem_map_of_mem hpart) record settings

include hother

theorem get_set_of_ne (hname : part.name ≠ other.name) (record : other.Record)
    (settings : Settings) : part.get (other.set record settings) = part.get settings :=
  consists.get_set_of_ne part.field (List.mem_map_of_mem hpart) other.field
    (List.mem_map_of_mem hother) hname record settings

theorem eq_of_name_eq (hname : part.name = other.name) : part = other := by
  have hnodup : ((parts (V := V)).map Part.name).Nodup := by
    simp [parts]
  exact List.inj_on_of_nodup_map hnodup hpart hother hname

end Part

end

/-! ## Writing as TOML -/

/-- A count is written as the integer that it is, and only if a signed word holds it. -/
theorem integer_eq_ok {n : UInt64} {value : Value} (h : integer n = .ok value) :
    value = .integer n.toNat ∧ n.toNat < Decimal.Word.signedLimit := by
  unfold integer at h
  split at h
  case isTrue hlimit =>
    cases h
    exact ⟨rfl, hlimit⟩
  case isFalse => cases h

theorem count_integer (n : UInt64) : FromTree.count (Value.integer n.toNat) = .ok n := by
  have hlimit : (n.toNat : Int) < Decimal.Word.limit := Int.ofNat_lt.mpr n.toNat_lt
  unfold FromTree.count
  simp only [DataTree.view, Value.view]
  rw [if_pos ⟨Int.natCast_nonneg _, hlimit⟩, Int.toNat_natCast, Nat.toUInt64, UInt64.ofNat_toNat]

theorem choice_expansion (expansion : Expansion) :
    Value.choice Expansion.options (.text expansion.name) = .ok expansion := by
  cases expansion <;> rfl

theorem choice_format (format : LogFormat) :
    Value.choice LogFormat.options (.text format.name) = .ok format := by
  cases format <;> rfl

theorem documentValue_eq (document : Document) : documentValue document =
    .table [("name", .text document.name), ("url", .text document.url)] := by
  have hlt : ¬"url" < "name" := by decide
  have hne : "url" ≠ "name" := by decide
  simp only [documentValue, Table.ofEntries, List.foldl_cons, List.foldl_nil, Table.insert,
    if_neg hlt, if_neg hne]

theorem record_documentValue (document : Document) :
    FromTree.record Document.shape (documentValue document) = .ok document := by
  rw [documentValue_eq]
  rfl

theorem list_documentValue (documents : List Document) :
    FromTree.list (FromTree.record Document.shape) (Value.array (documents.map documentValue)) =
      .ok documents := by
  have hitems : (documents.map documentValue).mapM
      (fun value ↦ FromTree.record Document.shape value) = .ok documents := by
    induction documents with
    | nil => rfl
    | cons document documents ih =>
      rw [List.map_cons, List.mapM_cons, record_documentValue, ih]
      rfl
  exact hitems

/-- A value is a table of the fields of a record, none of which is a table. -/
def Spells {ρ : Type} (value : Value) (shape : Shape (FromTree Value) ρ)
    (fields : List (Field Value ρ)) (record : ρ) : Prop :=
  value.WellFormed ∧
    ∃ table : Table Value, value = .table table ∧ table.Flat ∧ table.Encodes shape fields record

/-- A table spells a record if every field follows its entry. -/
theorem spells_ofEntries {ρ : Type} {shape : Shape (FromTree Value) ρ}
    {fields : List (Field Value ρ)} {record : ρ} {entries : List (String × Value)}
    (hvalues : ∀ entry ∈ entries, entry.2.WellFormed)
    (hflat : ∀ entry ∈ entries, ∀ inner, entry.2 ≠ .table inner)
    (hdistinct : (entries.map Prod.fst).Nodup)
    (hknown : ∀ entry ∈ entries, ∃ field ∈ fields, field.key = entry.1)
    (hfollows : ∀ field ∈ fields, field.Follows (entries.lookup field.key) shape.initial record) :
    Spells (.table (Table.ofEntries entries)) shape fields record :=
  ⟨.ofEntries hvalues, _, rfl, Table.flat_ofEntries hflat, .ofEntries hdistinct hknown hfollows⟩

theorem Server.spells {server : Server} {value : Value} (h : server.toValue = .ok value) :
    Spells value Server.shape Server.fields server := by
  obtain ⟨shutdownSeconds, hshutdown, h⟩ := exists_of_bind_eq_ok h
  obtain ⟨requestMillis, hrequest, h⟩ := exists_of_bind_eq_ok h
  cases h
  obtain ⟨rfl, hshutdownLimit⟩ := integer_eq_ok hshutdown
  obtain ⟨rfl, hrequestLimit⟩ := integer_eq_ok hrequest
  refine spells_ofEntries ?_ (by simp) (by simp) (by simp [fields]) ?_
  · simp only [List.forall_mem_cons]
    exact ⟨.text _, .integer (Int.ofNat_lt.mpr hshutdownLimit),
      .integer (Int.ofNat_lt.mpr hrequestLimit), by simp⟩
  · simp only [fields, Field.Follows, List.lookup, List.mem_cons, List.not_mem_nil, or_false,
      forall_eq_or_imp, forall_eq, BEq.rfl, String.reduceBEq]
    exact ⟨rfl, count_integer _, count_integer _⟩

theorem wellFormed_documentValue (document : Document) : (documentValue document).WellFormed := by
  refine .ofEntries ?_
  simp only [List.forall_mem_cons]
  exact ⟨.text _, .text _, by simp⟩

theorem Viewer.spells (viewer : Viewer) :
    Spells viewer.toValue Viewer.shape Viewer.fields viewer := by
  have hdocuments : (Value.array (viewer.documents.map documentValue)).WellFormed := by
    refine .array fun item hitem ↦ ?_
    obtain ⟨document, -, rfl⟩ := List.mem_map.mp hitem
    exact wellFormed_documentValue document
  have hlist := list_documentValue viewer.documents
  have hexpansion := choice_expansion viewer.expansion
  unfold Viewer.toValue
  cases hbase : viewer.assetBase with
  | none =>
    refine spells_ofEntries ?_ (by simp) (by simp) (by simp [fields]) ?_
    · simp only [Option.toList_none, List.map_nil, List.append_nil, List.cons_append,
        List.nil_append, List.forall_mem_cons]
      exact ⟨.text _, .text _, .text _, .text _, .flag _, .text _, hdocuments, by simp⟩
    · simp only [fields, Field.Follows, Option.toList_none, List.map_nil, List.append_nil,
        List.cons_append, List.nil_append, List.lookup, List.mem_cons, List.not_mem_nil, or_false,
        forall_eq_or_imp, forall_eq, BEq.rfl, String.reduceBEq]
      exact ⟨rfl, rfl, rfl, hexpansion, rfl, rfl, hbase, hlist⟩
  | some base =>
    refine spells_ofEntries ?_ (by simp) (by simp) (by simp [fields]) ?_
    · simp only [Option.toList_some, List.map_cons, List.map_nil, List.cons_append,
        List.nil_append, List.forall_mem_cons]
      exact ⟨.text _, .text _, .text _, .text _, .flag _, .text _, .text _, hdocuments, by simp⟩
    · simp only [fields, Field.Follows, Option.toList_some, List.map_cons, List.map_nil,
        List.cons_append, List.nil_append, List.lookup, List.mem_cons, List.not_mem_nil, or_false,
        forall_eq_or_imp, forall_eq, BEq.rfl, String.reduceBEq]
      exact ⟨rfl, rfl, rfl, hexpansion, rfl, rfl, congrArg Except.ok hbase.symm, hlist⟩

theorem Logging.spells (logging : Logging) :
    Spells logging.toValue Logging.shape Logging.fields logging := by
  refine spells_ofEntries ?_ (by simp) (by simp) (by simp [fields]) ?_
  · simp only [List.forall_mem_cons]
    exact ⟨.flag _, .text _, .text _, .flag _, .flag _, by simp⟩
  · simp only [fields, Field.Follows, List.lookup, List.mem_cons, List.not_mem_nil, or_false,
      forall_eq_or_imp, forall_eq, BEq.rfl, String.reduceBEq]
    exact ⟨rfl, rfl, choice_format _, rfl, rfl⟩

/-- What settings are written as holds a table for each section. -/
theorem spells {settings : Settings} {value : Value} (h : settings.toValue = .ok value) :
    value.WellFormed ∧ ∃ table : Table Value, value = .table table ∧
      table.Encodes Settings.shape (parts.map Part.field) settings ∧
      ∀ part ∈ parts, ∃ inner : Table Value, table.get? part.name = some (.table inner) ∧
        inner.Flat ∧ inner.Encodes part.shape part.fields (part.get settings) := by
  obtain ⟨server, hserver, h⟩ := exists_of_bind_eq_ok h
  cases h
  obtain ⟨hserverWell, serverTable, rfl, hserverFlat, hserverEncodes⟩ := Server.spells hserver
  obtain ⟨hviewerWell, viewerTable, hviewer, hviewerFlat, hviewerEncodes⟩ :=
    Viewer.spells settings.viewer
  obtain ⟨hloggingWell, loggingTable, hlogging, hloggingFlat, hloggingEncodes⟩ :=
    Logging.spells settings.logging
  refine ⟨.ofEntries ?_, _, rfl, .ofEntries (by simp) (by simp [parts, Part.field]) ?_, ?_⟩
  · simp only [List.forall_mem_cons]
    exact ⟨hserverWell, hviewerWell, hloggingWell, by simp⟩
  · simp only [parts, Part.field, Field.Follows, List.map_cons, List.map_nil, List.lookup,
      List.mem_cons, List.not_mem_nil, or_false, forall_eq_or_imp, forall_eq, BEq.rfl,
      String.reduceBEq, hviewer, hlogging]
    exact ⟨hserverEncodes.record_eq Server.consists, hviewerEncodes.record_eq Viewer.consists,
      hloggingEncodes.record_eq Logging.consists⟩
  · intro part hpart
    rw [Table.get?_ofEntries (by simp)]
    simp only [parts, List.mem_cons, List.not_mem_nil, or_false] at hpart
    rcases hpart with rfl | rfl | rfl
    · exact ⟨serverTable, rfl, hserverFlat, hserverEncodes⟩
    · exact ⟨viewerTable, congrArg some hviewer, hviewerFlat, hviewerEncodes⟩
    · exact ⟨loggingTable, congrArg some hlogging, hloggingFlat, hloggingEncodes⟩

end ApiReference.Settings
