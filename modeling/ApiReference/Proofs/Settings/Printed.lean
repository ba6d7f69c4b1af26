import ApiReference.Proofs.Settings.Overlay
import ApiReference.Proofs.Toml.Sections
import ApiReference.Settings.Document
import ApiReference.Settings.Loader

/-!
# Settings Printed and Loaded

Settings that are printed as a document are loaded from it again.  The sections of the document are
put together to the value that the settings are written as, and over the defaults that value sets
every field.
-/

namespace ApiReference

open Decode Toml

namespace Settings

/-! ## A value over the defaults -/

/-- The value that settings are written as gives the settings, when it is put over the defaults. -/
theorem overlay_default {settings : Settings} {value : Value}
    (h : settings.toValue = .ok value) : overlay {} value = .ok settings := by
  obtain ⟨hwell, table, rfl, hencodes, hparts⟩ := spells h
  have hdefault : Settings.Bounded {} := bounded_presets {} (by simp)
  have hsections : Sectioned table := by
    intro part hpart value hvalue
    obtain ⟨inner, hinner, -⟩ := hparts part hpart
    exact ⟨inner, Option.some.inj (hvalue.symm.trans hinner)⟩
  refine (overlay_ok_iff hdefault hsections hwell).mpr ⟨?_, ?_⟩
  · refine (accepts_iff_fits hsections hencodes.ascending).mp ⟨settings, ?_⟩
    exact hencodes.record_eq consists
  · intro part hpart field hfield
    obtain ⟨inner, hinner, -, hfollows⟩ := hparts part hpart
    have hsection : sectionOf table part.name = inner := by
      rw [sectionOf, hinner]
    rw [hsection, get_default part hpart]
    exact hfollows.follows field hfield

/-! ## Blocks of the sections -/

/-- What is written of a server section whose timeouts TOML can hold. -/
def Server.pairs (server : Server) : List (String × Plain) :=
  [("http_addr", .text server.address),
    ("shutdown_timeout_secs", .integer server.shutdownSeconds.toNat),
    ("request_timeout_ms", .integer server.requestMillis.toNat)]

/-- The blocks of settings whose timeouts TOML can hold. -/
def blocks (settings : Settings) : List Block :=
  [⟨["server"], false, settings.server.pairs⟩, ⟨["viewer"], false, settings.viewer.pairs⟩] ++
    (settings.viewer.documents.map fun document ↦
      ⟨["viewer", "documents"], true, documentPairs document⟩) ++
    [⟨["logging"], false, settings.logging.pairs⟩]

/-- A count is printed if a signed word holds it. -/
theorem printedCount?_eq_some_iff {n : UInt64} {written : Plain} :
    printedCount? n = some written ↔
      n.toNat < Decimal.Word.signedLimit ∧ .integer n.toNat = written := by
  simp [printedCount?]

/-- The writing stops at a timeout that TOML cannot hold, and at nothing else. -/
theorem blocks?_eq_some_iff {settings : Settings} {written : List Block} :
    settings.blocks? = some written ↔ settings.Bounded ∧ settings.blocks = written := by
  simp only [blocks?, Server.pairs?, Option.bind_eq_bind, Option.pure_def, Option.bind_eq_some_iff,
    printedCount?_eq_some_iff, Option.some_inj]
  constructor
  · rintro ⟨-, ⟨-, ⟨hshutdown, rfl⟩, -, ⟨hrequest, rfl⟩, rfl⟩, hwritten⟩
    exact ⟨⟨hshutdown, hrequest⟩, hwritten⟩
  · rintro ⟨hbounded, hwritten⟩
    exact ⟨_, ⟨_, ⟨hbounded.1, rfl⟩, _, ⟨hbounded.2, rfl⟩, rfl⟩, hwritten⟩

theorem bare_of_all {key : String}
    (h : (key != "" && key.toList.all Reader.isBareKeyChar) = true) : Bare key := by
  rw [Bool.and_eq_true, bne_iff_ne, List.all_eq_true] at h
  exact h

theorem pairFits_text {key : String}
    (h : (key != "" && key.toList.all Reader.isBareKeyChar) = true) (value : String) :
    PairFits (key, .text value) :=
  ⟨bare_of_all h, trivial⟩

theorem pairFits_flag {key : String}
    (h : (key != "" && key.toList.all Reader.isBareKeyChar) = true) (value : Bool) :
    PairFits (key, .flag value) :=
  ⟨bare_of_all h, trivial⟩

theorem pairFits_count {key : String}
    (h : (key != "" && key.toList.all Reader.isBareKeyChar) = true) {n : UInt64}
    (hn : n.toNat < Decimal.Word.signedLimit) : PairFits (key, .integer n.toNat) :=
  ⟨bare_of_all h, Int.natCast_nonneg _, Int.ofNat_lt.mpr hn⟩

theorem Viewer.pairs_fit (viewer : Viewer) : ∀ pair ∈ viewer.pairs, PairFits pair := by
  have hfixed : ∀ pair ∈ [("title", .text viewer.title), ("default_url", .text viewer.defaultUrl),
      ("render_target", .text viewer.target), ("doc_expansion", .text viewer.expansion.name),
      ("display_request_duration", .flag viewer.showDuration),
      ("swagger_version", Plain.text viewer.version)], PairFits pair := by
    simp only [List.forall_mem_cons]
    exact ⟨pairFits_text (by decide) _, pairFits_text (by decide) _, pairFits_text (by decide) _,
      pairFits_text (by decide) _, pairFits_flag (by decide) _, pairFits_text (by decide) _,
      by simp⟩
  refine List.forall_mem_append.mpr ⟨List.forall_mem_append.mpr ⟨hfixed, ?_⟩, ?_⟩
  · exact List.forall_mem_map.mpr fun base _ ↦ pairFits_text (by decide) base
  · split
    · exact List.forall_mem_singleton.mpr ⟨bare_of_all (by decide), trivial⟩
    · simp

/-- All that is printed can be read again. -/
theorem blocks_fit {settings : Settings} (h : settings.Bounded) :
    ∀ block ∈ settings.blocks, block.Fits := by
  have hpath : ∀ step ∈ ["server", "viewer", "documents", "logging"], Bare step := by
    simp only [List.forall_mem_cons]
    exact ⟨bare_of_all (by decide), bare_of_all (by decide), bare_of_all (by decide),
      bare_of_all (by decide), by simp⟩
  have hserver : ∀ pair ∈ settings.server.pairs, PairFits pair := by
    simp only [Server.pairs, List.forall_mem_cons]
    exact ⟨pairFits_text (by decide) _, pairFits_count (by decide) h.1,
      pairFits_count (by decide) h.2, by simp⟩
  have hdocument (document : Document) : ∀ pair ∈ documentPairs document, PairFits pair := by
    simp only [documentPairs, List.forall_mem_cons]
    exact ⟨pairFits_text (by decide) _, pairFits_text (by decide) _, by simp⟩
  have hlogging : ∀ pair ∈ settings.logging.pairs, PairFits pair := by
    simp only [Logging.pairs, List.forall_mem_cons]
    exact ⟨pairFits_flag (by decide) _, pairFits_text (by decide) _, pairFits_text (by decide) _,
      pairFits_flag (by decide) _, pairFits_flag (by decide) _, by simp⟩
  have hshort : 1 < Reader.depthLimit ∧ 2 < Reader.depthLimit := by
    decide
  refine List.forall_mem_append.mpr ⟨List.forall_mem_append.mpr ⟨?_, ?_⟩, ?_⟩
  · simp only [List.forall_mem_cons]
    exact ⟨⟨by simp, hshort.1, fun step hstep ↦ hpath step (by simp_all), hserver⟩,
      ⟨by simp, hshort.1, fun step hstep ↦ hpath step (by simp_all),
        settings.viewer.pairs_fit⟩, by simp⟩
  · refine List.forall_mem_map.mpr fun document _ ↦ ?_
    exact ⟨by simp, hshort.2, fun step hstep ↦ hpath step (by simp at hstep ⊢; tauto),
      hdocument document⟩
  · refine List.forall_mem_singleton.mpr ?_
    exact ⟨by simp, hshort.1, fun step hstep ↦ hpath step (by simp_all), hlogging⟩

theorem documents_notMem_pairs {viewer : Viewer} (h : viewer.documents ≠ []) :
    "documents" ∉ (Entries.ofPairs viewer.pairs).map Prod.fst := by
  unfold Viewer.pairs
  cases viewer.assetBase <;> simp [Entries.ofPairs, h]

/-- No key of the viewer is printed twice. -/
theorem nodup_viewer_pairs (viewer : Viewer) : (viewer.pairs.map Prod.fst).Nodup := by
  unfold Viewer.pairs
  cases viewer.assetBase <;> cases viewer.documents <;> simp

/-! ## The value of the document -/

def entries (settings : Settings) : Entries :=
  [("server", .table .header (Entries.ofPairs settings.server.pairs)),
    ("viewer", .table .header (Entries.withTables (Entries.ofPairs settings.viewer.pairs)
      "documents" ((settings.viewer.documents.map documentPairs).map Entries.ofPairs))),
    ("logging", .table .header (Entries.ofPairs settings.logging.pairs))]

/-- The printed blocks give the entries of the settings. -/
theorem ofSections_blocks (settings : Settings) :
    Entries.ofSections (⟨[], false, []⟩ :: settings.blocks.map Block.toSection) =
      some settings.entries := by
  -- the entries are followed from section to section, each being added to those before it
  let server := ("server", Item.table .header (Entries.ofPairs settings.server.pairs))
  let viewer (tables : List Entries) := ("viewer", Item.table .header
    (Entries.withTables (Entries.ofPairs settings.viewer.pairs) "documents" tables))
  have hserver : Entries.addSection []
      (Block.toSection ⟨["server"], false, settings.server.pairs⟩) = some [server] :=
    Entries.addSection_header (by simp [Server.pairs]) (by simp)
  have hviewer : Entries.addSection [server]
      (Block.toSection ⟨["viewer"], false, settings.viewer.pairs⟩) = some [server, viewer []] :=
    Entries.addSection_header (nodup_viewer_pairs settings.viewer) (by simp [server])
  have hdocuments : ((settings.viewer.documents.map documentPairs).map fun pairs ↦
      Block.toSection ⟨["viewer", "documents"], true, pairs⟩).foldlM Entries.addSection
        [server, viewer []] = some [server,
          viewer ((settings.viewer.documents.map documentPairs).map Entries.ofPairs)] := by
    have houter : "viewer" ∉ [server].map Prod.fst := by simp [server]
    refine Entries.foldlM_addSection_repeated houter (fun hne ↦ ?_) ?_ []
    · exact documents_notMem_pairs (by simpa using hne)
    · exact List.forall_mem_map.mpr fun document _ ↦ by simp [documentPairs]
  have hlogging (tables : List Entries) : Entries.addSection [server, viewer tables]
      (Block.toSection ⟨["logging"], false, settings.logging.pairs⟩) =
        some ([server, viewer tables] ++
          [("logging", .table .header (Entries.ofPairs settings.logging.pairs))]) :=
    Entries.addSection_header (by simp [Logging.pairs]) (by simp [server, viewer])
  have hsections : settings.blocks.map Block.toSection =
      [Block.toSection ⟨["server"], false, settings.server.pairs⟩,
        Block.toSection ⟨["viewer"], false, settings.viewer.pairs⟩] ++
      ((settings.viewer.documents.map documentPairs).map fun pairs ↦
        Block.toSection ⟨["viewer", "documents"], true, pairs⟩) ++
      [Block.toSection ⟨["logging"], false, settings.logging.pairs⟩] := by
    simp only [blocks, List.map_append, List.map_map, List.map_cons, List.map_nil]
    rfl
  have hroot : Entries.addSection [] ⟨[], false, []⟩ = some [] := rfl
  rw [Entries.ofSections, hsections]
  simp only [List.foldlM_append, List.foldlM_cons, List.foldlM_nil, hroot, hserver, hviewer,
    hdocuments, hlogging, Option.bind_eq_bind, Option.bind_some, Option.pure_def]
  rfl

theorem tableValues?_documents (documents : List Document) :
    tableValues? ((documents.map documentPairs).map Entries.ofPairs) =
      some (documents.map documentValue) := by
  have hdocument (document : Document) :
      tableValue? (Entries.ofPairs (documentPairs document)) = some (documentValue document) :=
    tableValue?_ofPairs (by simp [documentPairs]) (by simp [documentPairs, datetimeKey])
  induction documents with
  | nil => simp [tableValues?]
  | cons document documents ih =>
    rw [List.map_cons, List.map_cons, tableValues?, hdocument, ih]
    rfl

theorem Viewer.tableValue? (viewer : Viewer) :
    Toml.tableValue? (Entries.withTables (Entries.ofPairs viewer.pairs) "documents"
      ((viewer.documents.map documentPairs).map Entries.ofPairs)) = some viewer.toValue := by
  have hfirst : ∀ pair ∈ viewer.pairs.head?, pair.1 ≠ datetimeKey := by
    simp [pairs, datetimeKey]
  unfold Entries.withTables
  by_cases hempty : viewer.documents = []
  · rw [hempty, List.map_nil, List.map_nil, if_pos List.isEmpty_nil,
      tableValue?_ofPairs (nodup_viewer_pairs viewer) hfirst]
    unfold Viewer.pairs Viewer.toValue
    cases viewer.assetBase <;> simp [hempty, Plain.toValue]
  · -- the documents are entries of their own, after those of the section's header
    rw [if_neg (by simpa using hempty)]
    have hdocuments : (Item.tables ((viewer.documents.map documentPairs).map
        Entries.ofPairs)).toValue? = some (.array (viewer.documents.map documentValue)) := by
      rw [Item.toValue?, tableValues?_documents]
      rfl
    have hholds := List.rel_append (holds_ofPairs viewer.pairs)
      (.cons (⟨rfl, hdocuments⟩ : Holds ("documents", _) ("documents", _)) .nil)
    rw [tableValue?_eq hholds]
    · unfold Viewer.pairs Viewer.toValue
      cases viewer.assetBase <;> simp [hempty, Plain.toValue]
    · unfold Viewer.pairs
      cases viewer.assetBase <;> simp [hempty]
    · simp [Entries.ofPairs, pairs, datetimeKey]

/-- The entries have the value that the settings are written as. -/
theorem tableValue?_entries {settings : Settings} {value : Value}
    (h : settings.toValue = .ok value) : tableValue? settings.entries = some value := by
  obtain ⟨server, hserver, h⟩ := exists_of_bind_eq_ok h
  cases h
  have hserverTable : Toml.tableValue? (Entries.ofPairs settings.server.pairs) = some server := by
    rw [tableValue?_ofPairs (by simp [Server.pairs]) (by simp [Server.pairs, datetimeKey])]
    obtain ⟨shutdownSeconds, hshutdown, hserver⟩ := exists_of_bind_eq_ok hserver
    obtain ⟨requestMillis, hrequest, hserver⟩ := exists_of_bind_eq_ok hserver
    cases hserver
    rw [(integer_eq_ok hshutdown).1, (integer_eq_ok hrequest).1]
    rfl
  have hloggingTable : Toml.tableValue? (Entries.ofPairs settings.logging.pairs) =
      some settings.logging.toValue :=
    tableValue?_ofPairs (by simp [Logging.pairs]) (by simp [Logging.pairs, datetimeKey])
  refine tableValue?_eq (.cons ⟨rfl, ?_⟩ (.cons ⟨rfl, ?_⟩ (.cons ⟨rfl, ?_⟩ .nil))) (by simp)
    (by simp [entries, datetimeKey])
  · rw [Item.toValue?]
    exact hserverTable
  · rw [Item.toValue?]
    exact settings.viewer.tableValue?
  · rw [Item.toValue?]
    exact hloggingTable

/-- The printed text is read as the value of the settings. -/
theorem read?_printBlocks {settings : Settings} {value : Value}
    (h : settings.toValue = .ok value) (hbounded : settings.Bounded) :
    Value.read? (String.ofList (printBlocks settings.blocks)) = some value := by
  rw [Value.read?, readSections_printBlocks (blocks_fit hbounded)]
  dsimp only [Option.bind_eq_bind, Option.bind_some]
  rw [ofSections_blocks]
  exact tableValue?_entries h

/-! ## Printing and loading -/

/-- Settings are printed if both their counts can be. -/
theorem toDocument?_eq_some_iff {settings : Settings} {text : String} :
    settings.toDocument? = some text ↔
      settings.Bounded ∧ String.ofList (printBlocks settings.blocks) = text := by
  simp only [toDocument?, Option.map_eq_some_iff, blocks?_eq_some_iff, and_assoc,
    exists_and_left, exists_eq_left']

theorem bounded_iff_le (settings : Settings) :
    settings.Bounded ↔ settings.server.shutdownSeconds.toNat ≤ 2 ^ 63 - 1 ∧
      settings.server.requestMillis.toNat ≤ 2 ^ 63 - 1 := by
  unfold Bounded Decimal.Word.signedLimit
  omega

/-- Settings are printed exactly when both timeouts fit an integer with a sign, and what is printed
is loaded again as the same settings. -/
theorem printed_is_loaded (settings : Settings) :
    (settings.toDocument?.isSome = true ↔ settings.server.shutdownSeconds.toNat ≤ 2 ^ 63 - 1 ∧
      settings.server.requestMillis.toNat ≤ 2 ^ 63 - 1) ∧
    ∀ text ∈ settings.toDocument?, Loader.withText {} text "toml" = .ok { settings } := by
  refine ⟨?_, fun text htext ↦ ?_⟩
  · rw [← bounded_iff_le, Option.isSome_iff_exists]
    simp only [toDocument?_eq_some_iff, exists_and_left, exists_eq', and_true]
  · obtain ⟨hbounded, rfl⟩ := toDocument?_eq_some_iff.mp htext
    obtain ⟨value, hvalue⟩ := hbounded.exists_toValue
    have hread : readLayer .toml (String.ofList (printBlocks settings.blocks)) = .ok value := by
      rw [readLayer, read?_printBlocks hvalue hbounded]
    have hlanguage : Language.ofName? "toml" = some .toml := by
      decide +kernel
    have hoverlay : overlayText {} (String.ofList (printBlocks settings.blocks)) "toml" =
        .ok settings := by
      rw [overlayText, hlanguage]
      dsimp only
      rw [hread]
      exact overlay_default hvalue
    rw [Loader.withText, hoverlay]
    rfl

/-- Settings with texts in every style, the longest timeout, a base and no documents. -/
def quoted : Settings where
  server := { address := "a b", shutdownSeconds := 9223372036854775807 }
  viewer :=
    { title := "\"\"\"\n\\\x00", defaultUrl := "\"\\", target := "'\"", version := "''\\\n"
      assetBase := some "'\r\"", documents := [] }

theorem quoted_is_loaded : ∃ text ∈ quoted.toDocument?,
    Loader.withText {} text "toml" = .ok { settings := quoted } := by
  have htext : quoted.toDocument? = some (String.ofList (printBlocks quoted.blocks)) :=
    toDocument?_eq_some_iff.mpr ⟨⟨by decide, by decide⟩, rfl⟩
  exact ⟨_, htext, (printed_is_loaded quoted).2 _ htext⟩

end Settings

end ApiReference
