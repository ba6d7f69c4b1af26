import ApiReference.Proofs.Json.Making
import ApiReference.Proofs.Settings.Printed

/-!
# Settings Written as JSON

The JSON text of settings is read as the TOML value that the settings have themselves, and over the
defaults that value gives the settings.  Only a base that is not set breaks this: it is written as
`null`, and TOML has no such value.
-/

namespace ApiReference

open Decode
open Json (Builder putMember putMember_of_notMem)

/-! ## TOML values of JSON values -/

namespace Toml.Value

/-- A member and the entry that is made of it. -/
def Makes (member : String × Json.Value) (entry : String × Toml.Value) : Prop :=
  member.1 = entry.1 ∧ Value.builder.make member.2 = .ok entry.2

theorem map_fst_of_makes {members : List (String × Json.Value)}
    {entries : List (String × Toml.Value)} (h : List.Forall₂ Makes members entries) :
    members.map Prod.fst = entries.map Prod.fst := by
  induction h with
  | nil => rfl
  | cons hmember _ ih => rw [List.map_cons, List.map_cons, hmember.1, ih]

/-- A name that has not been used yet is permitted. -/
theorem permit_of_notMem {entries : List (String × Toml.Value)} {name : String}
    (h : name ∉ entries.map Prod.fst) : Value.builder.permit entries name = .ok () := by
  have hlookup : entries.lookup name = none := by
    rw [List.lookup_eq_none_iff]
    intro entry hentry
    rw [bne_iff_ne]
    rintro rfl
    exact h (List.mem_map_of_mem hentry)
  show (if (entries.lookup name).isSome then _ else _) = _
  rw [hlookup]
  rfl

/-- One more member with a new name adds what is made of its value at the end. -/
theorem makeMember_of_notMem {before : List (String × Toml.Value)} {member : String × Json.Value}
    (h : member.1 ∉ before.map Prod.fst) : Value.builder.makeMember before member =
      (Value.builder.make member.2).map fun made ↦ before ++ [(member.1, made)] := by
  rw [Builder.makeMember, permit_of_notMem h]
  cases hmade : Value.builder.make member.2 with
  | error what => rfl
  | ok made =>
    show Except.ok (putMember member.1 made before) = _
    rw [putMember_of_notMem h made]
    rfl

/-- What is made of members with different names: the entries of those at the front, and then what
is made of the others. -/
theorem makeMembers_append (before : List (String × Toml.Value))
    {members : List (String × Json.Value)} {entries : List (String × Toml.Value)}
    (hnames : (before.map Prod.fst ++ members.map Prod.fst).Nodup)
    (h : List.Forall₂ Makes members entries) (later : List (String × Json.Value)) :
    Value.builder.makeMembers before (members ++ later) =
      Value.builder.makeMembers (before ++ entries) later := by
  induction h generalizing before with
  | nil => rw [List.nil_append, List.append_nil]
  | @cons member entry members entries hmember _ ih =>
    have hnew : member.1 ∉ before.map Prod.fst := by
      intro hmem
      exact (List.nodup_append.mp hnames).2.2 _ hmem _ (by simp) rfl
    have hmade : Value.builder.makeMember before member = .ok (before ++ [entry]) := by
      rw [makeMember_of_notMem hnew, hmember.1, hmember.2]
      rfl
    have hrest := ih (before ++ [entry]) (by simpa [← hmember.1] using hnames)
    rw [List.append_assoc, List.singleton_append] at hrest
    rw [List.cons_append, Builder.makeMembers_cons, hmade]
    exact hrest

theorem make_table {members : List (String × Json.Value)} {entries : List (String × Toml.Value)}
    (hnames : (members.map Prod.fst).Nodup) (h : List.Forall₂ Makes members entries) :
    Value.builder.make (.object members) = .ok (.table (Table.ofEntries entries)) := by
  have hmembers : Value.builder.makeMembers [] members = .ok entries := by
    rw [← List.append_nil members, makeMembers_append [] hnames h []]
    rfl
  rw [Builder.make_object, hmembers]
  rfl

theorem make_array {items : List Json.Value} {values : List Toml.Value}
    (h : List.Forall₂ (fun item value ↦ Value.builder.make item = .ok value) items values) :
    Value.builder.make (.array items) = .ok (.array values) := by
  have hitems : Value.builder.makeItems items = .ok values := by
    induction h with
    | nil => rfl
    | cons hitem _ ih =>
      rw [Builder.makeItems, hitem, ih]
      rfl
  rw [Builder.make_array, hitems]
  rfl

/-- An object is refused for its first value that is. -/
theorem make_object_error (members : List (String × Json.Value)) (refused : String × Json.Value)
    {later : List (String × Json.Value)} {entries : List (String × Toml.Value)} {what : Mismatch}
    (hnames : ((members ++ [refused]).map Prod.fst).Nodup)
    (h : List.Forall₂ Makes members entries)
    (hrefused : Value.builder.make refused.2 = .error what) :
    Value.builder.make (.object (members ++ refused :: later)) = .error what := by
  rw [List.map_append, List.nodup_append] at hnames
  have hnew : refused.1 ∉ entries.map Prod.fst := by
    rw [← map_fst_of_makes h]
    intro hmem
    exact hnames.2.2 _ hmem _ (by simp) rfl
  have hmade : Value.builder.makeMember entries refused = .error what := by
    rw [makeMember_of_notMem hnew, hrefused]
    rfl
  have hmembers : Value.builder.makeMembers [] (members ++ refused :: later) = .error what := by
    rw [makeMembers_append [] hnames.1 h (refused :: later), List.nil_append,
      Builder.makeMembers_cons, hmade]
    rfl
  rw [Builder.make_object, hmembers]
  rfl

end Toml.Value

namespace Settings

open Toml (Value)
open Toml.Value (Makes)

/-! ## What is made of the sections -/

theorem make_server {server : Server} {value : Value} (h : server.toValue = .ok value) :
    Value.builder.make server.toJson = .ok value := by
  obtain ⟨shutdownSeconds, hshutdown, h⟩ := exists_of_bind_eq_ok h
  obtain ⟨requestMillis, hrequest, h⟩ := exists_of_bind_eq_ok h
  cases h
  have hcount {n : UInt64} {value : Value} (h : integer n = .ok value) :
      Value.builder.make (.ofNat n.toNat) = .ok value := by
    obtain ⟨rfl, hlimit⟩ := integer_eq_ok h
    have hfits : (n.toNat : Int) < Decimal.Word.signedLimit := Int.ofNat_lt.mpr hlimit
    simp only [Json.Value.ofNat, Builder.make, Value.builder, hfits, if_true]
  apply Toml.Value.make_table
  · simp
  · exact .cons ⟨rfl, rfl⟩ (.cons ⟨rfl, hcount hshutdown⟩ (.cons ⟨rfl, hcount hrequest⟩ .nil))

theorem make_document (document : Document) :
    Value.builder.make document.toJson = .ok (documentValue document) := by
  apply Toml.Value.make_table
  · simp
  · exact .cons ⟨rfl, rfl⟩ (.cons ⟨rfl, rfl⟩ .nil)

theorem make_documents (documents : List Document) :
    Value.builder.make (.array (documents.map Document.toJson)) =
      .ok (.array (documents.map documentValue)) := by
  apply Toml.Value.make_array
  rw [List.forall₂_map_left_iff, List.forall₂_map_right_iff, List.forall₂_same]
  exact fun document _ ↦ make_document document

def Viewer.membersBeforeBase (viewer : Viewer) : List (String × Json.Value) :=
  [("title", .text viewer.title), ("default_url", .text viewer.defaultUrl),
    ("render_target", .text viewer.target), ("doc_expansion", .text viewer.expansion.name),
    ("display_request_duration", .flag viewer.showDuration),
    ("swagger_version", .text viewer.version)]

def Viewer.entriesBeforeBase (viewer : Viewer) : List (String × Value) :=
  [("title", .text viewer.title), ("default_url", .text viewer.defaultUrl),
    ("render_target", .text viewer.target), ("doc_expansion", .text viewer.expansion.name),
    ("display_request_duration", .flag viewer.showDuration),
    ("swagger_version", .text viewer.version)]

theorem Viewer.makes_beforeBase (viewer : Viewer) :
    List.Forall₂ Makes viewer.membersBeforeBase viewer.entriesBeforeBase :=
  .cons ⟨rfl, rfl⟩ (.cons ⟨rfl, rfl⟩ (.cons ⟨rfl, rfl⟩ (.cons ⟨rfl, rfl⟩ (.cons ⟨rfl, rfl⟩
    (.cons ⟨rfl, rfl⟩ .nil)))))

/-- Why a base that is not set is refused where it is written as `null`. -/
def baseMissing : Mismatch :=
  .type .nothing "any valid TOML value"

/-- With a base, the object of the viewer makes its table. -/
theorem make_viewer {viewer : Viewer} {base : String} (h : viewer.assetBase = some base) :
    Value.builder.make viewer.toJson = .ok viewer.toValue := by
  have hafter : List.Forall₂ Makes
      [("asset_base_url", .ofText? viewer.assetBase),
        ("documents", .array (viewer.documents.map Document.toJson))]
      ((viewer.assetBase.toList.map fun base ↦ ("asset_base_url", .text base)) ++
        [("documents", .array (viewer.documents.map documentValue))]) := by
    rw [h]
    exact .cons ⟨rfl, rfl⟩ (.cons ⟨rfl, make_documents viewer.documents⟩ .nil)
  have hmakes := List.rel_append viewer.makes_beforeBase hafter
  simp only [← List.append_assoc] at hmakes
  apply Toml.Value.make_table _ hmakes
  simp [Viewer.membersBeforeBase]

/-- A base that is not set is no TOML value. -/
theorem make_viewer_error {viewer : Viewer} (h : viewer.assetBase = none) :
    Value.builder.make viewer.toJson = .error baseMissing := by
  have hbase : Value.builder.make (.ofText? viewer.assetBase) =
      .error baseMissing := by
    rw [h]
    rfl
  apply Toml.Value.make_object_error viewer.membersBeforeBase
    ("asset_base_url", .ofText? viewer.assetBase) _ viewer.makes_beforeBase hbase
  simp [Viewer.membersBeforeBase]

theorem make_logging (logging : Logging) :
    Value.builder.make logging.toJson = .ok logging.toValue := by
  apply Toml.Value.make_table
  · simp
  · exact .cons ⟨rfl, rfl⟩ (.cons ⟨rfl, rfl⟩ (.cons ⟨rfl, rfl⟩ (.cons ⟨rfl, rfl⟩
      (.cons ⟨rfl, rfl⟩ .nil))))

/-- Settings with a base have one TOML value, whether they are written as JSON first or not. -/
theorem make_toJson {settings : Settings} {value : Value} {base : String}
    (h : settings.toValue = .ok value) (hbase : settings.viewer.assetBase = some base) :
    Value.builder.make settings.toJson = .ok value := by
  obtain ⟨server, hserver, h⟩ := exists_of_bind_eq_ok h
  cases h
  apply Toml.Value.make_table
  · simp
  · exact .cons ⟨rfl, make_server hserver⟩ (.cons ⟨rfl, make_viewer hbase⟩
      (.cons ⟨rfl, make_logging settings.logging⟩ .nil))

/-- Without a base, the null in its place is refused. -/
theorem make_toJson_error {settings : Settings} {value : Value}
    (h : settings.toValue = .ok value) (hbase : settings.viewer.assetBase = none) :
    Value.builder.make settings.toJson = .error baseMissing := by
  obtain ⟨server, hserver, -⟩ := exists_of_bind_eq_ok h
  have hbefore : List.Forall₂ Makes [("server", settings.server.toJson)] [("server", server)] :=
    .cons ⟨rfl, make_server hserver⟩ .nil
  apply Toml.Value.make_object_error _ ("viewer", settings.viewer.toJson) _ hbefore
    (make_viewer_error hbase)
  simp

/-! ## The text of the sections -/

theorem suits_document (depth : Nat) (document : Document) :
    Value.builder.Suits (depth + 1) document.toJson := by
  apply Builder.Suits.object
  · simp [Value.builder]
  · simp only [List.forall_mem_cons]
    exact ⟨.text _ _, .text _ _, by simp⟩

theorem suits_count (depth : Nat) (n : UInt64) :
    Value.builder.Suits depth (.ofNat n.toNat) :=
  .count depth n.toNat_lt

theorem suits_server (depth : Nat) (server : Server) :
    Value.builder.Suits (depth + 1) server.toJson := by
  apply Builder.Suits.object
  · simp [Value.builder]
  · simp only [List.forall_mem_cons]
    exact ⟨.text _ _, suits_count _ _, suits_count _ _, by simp⟩

theorem suits_viewer (depth : Nat) (viewer : Viewer) :
    Value.builder.Suits (depth + 3) viewer.toJson := by
  have hbase : Value.builder.Suits (depth + 2) (.ofText? viewer.assetBase) := by
    cases viewer.assetBase with
    | none => exact .null _
    | some base => exact .text _ base
  have hdocuments : Value.builder.Suits (depth + 2)
      (.array (viewer.documents.map Document.toJson)) := by
    apply Builder.Suits.array
    exact List.forall_mem_map.mpr fun document _ ↦ suits_document depth document
  apply Builder.Suits.object
  · simp [Value.builder]
  · simp only [List.forall_mem_cons]
    exact ⟨.text _ _, .text _ _, .text _ _, .text _ _, .flag _ _, .text _ _, hbase, hdocuments,
      by simp⟩

theorem suits_logging (depth : Nat) (logging : Logging) :
    Value.builder.Suits (depth + 1) logging.toJson := by
  apply Builder.Suits.object
  · simp [Value.builder]
  · simp only [List.forall_mem_cons]
    exact ⟨.flag _ _, .text _ _, .text _ _, .flag _ _, .flag _ _, by simp⟩

/-- The object of the settings is read as it was made, wherever it stands. -/
theorem suits_toJson (depth : Nat) (settings : Settings) :
    Value.builder.Suits (depth + 4) settings.toJson := by
  apply Builder.Suits.object
  · simp [Value.builder]
  · simp only [List.forall_mem_cons]
    exact ⟨suits_server _ _, suits_viewer _ _, suits_logging _ _, by simp⟩

/-! ## Writing and loading -/

/-- Over the defaults, a JSON text gives what its TOML value gives. -/
theorem withText_json (text : String) : Loader.withText {} text "json" =
    (((Value.readJson text).mapError Error.json).bind (overlay {})).map
      fun settings ↦ { settings } := by
  have hlanguage : Language.ofName? "json" = some .json := by
    decide +kernel
  unfold Loader.withText overlayText
  rw [hlanguage]
  cases hread : Value.readJson text with
  | error _ | ok _ =>
    simp only [readLayer, hread]
    rfl

/-- Settings with a base are loaded back from their object. -/
theorem Bounded.withText_toJson {settings : Settings} (h : settings.Bounded) {base : String}
    (hbase : settings.viewer.assetBase = some base) :
    Loader.withText {} settings.toJson.toText "json" = .ok { settings } := by
  obtain ⟨value, hvalue⟩ := h.exists_toValue
  have hread : Value.readJson settings.toJson.toText = .ok value :=
    (Builder.read_toText (suits_toJson 123 settings)).1 value (make_toJson hvalue hbase)
  have hoverlay : overlay {} value = .ok settings := overlay_default hvalue
  rw [withText_json, hread]
  simp only [Except.mapError, Except.bind, Except.map, hoverlay]

/-- Settings without a base are refused at the null. -/
theorem Bounded.withText_toJson_error {settings : Settings} (h : settings.Bounded)
    (hbase : settings.viewer.assetBase = none) :
    ∃ place, Loader.withText {} settings.toJson.toText "json" =
      .error (.json ⟨.mismatch baseMissing, place⟩) := by
  obtain ⟨value, hvalue⟩ := h.exists_toValue
  obtain ⟨place, hread⟩ := (Builder.read_toText (suits_toJson 123 settings)).2 baseMissing
    (make_toJson_error hvalue hbase)
  use place
  rw [withText_json, Value.readJson, hread]
  rfl

/-- Settings whose timeouts fit an integer with a sign are loaded again from the JSON text that they
are written as exactly if a base is set.  If none is set, the text is refused for its `null`. -/
theorem written_is_loaded_iff (settings : Settings)
    (h : settings.server.shutdownSeconds.toNat ≤ 2 ^ 63 - 1 ∧
      settings.server.requestMillis.toNat ≤ 2 ^ 63 - 1) :
    (Loader.withText {} settings.toJson.toText "json" = .ok { settings } ↔
      settings.viewer.assetBase.isSome = true) ∧
    (settings.viewer.assetBase = none →
      ∃ place, Loader.withText {} settings.toJson.toText "json" =
        .error (.json ⟨.mismatch baseMissing, place⟩)) := by
  have hbounded : settings.Bounded := settings.bounded_iff_le.mpr h
  cases hbase : settings.viewer.assetBase with
  | none =>
    obtain ⟨place, hrefused⟩ := hbounded.withText_toJson_error hbase
    constructor
    · rw [hrefused]
      simp
    · exact fun _ ↦ ⟨place, hrefused⟩
  | some base =>
    have hloaded := hbounded.withText_toJson hbase
    constructor
    · simp [hloaded]
    · simp

theorem quoted_is_written :
    (quoted.server.shutdownSeconds.toNat ≤ 2 ^ 63 - 1 ∧
      quoted.server.requestMillis.toNat ≤ 2 ^ 63 - 1) ∧
    Loader.withText {} quoted.toJson.toText "json" = .ok { settings := quoted } :=
  ⟨by decide, (written_is_loaded_iff quoted (by decide)).1.mpr rfl⟩

/-- The defaults set no base, so nothing is loaded from their own JSON text. -/
theorem defaults_are_refused : Bounded {} ∧
    ∀ loader, Loader.withText {} (toJson {}).toText "json" ≠ .ok loader := by
  have hbounded : Bounded {} := bounded_presets {} (by simp)
  obtain ⟨place, hrefused⟩ := hbounded.withText_toJson_error rfl
  refine ⟨hbounded, fun loader ↦ ?_⟩
  rw [hrefused]
  simp

end Settings

end ApiReference
