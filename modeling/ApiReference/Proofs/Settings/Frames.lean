import ApiReference.Proofs.Settings.Loading
import ApiReference.Proofs.Text.Utf8

/-!
# What a Layer Leaves Alone

A layer is meant to leave every field alone that it does not name.  It does so as long as tables
lead to the field.  A list in the place of such a table is accepted too, and is read by places: then
the fields of the section that it has no item for are set to their defaults.
-/

namespace ApiReference.Settings

open Decode Text Toml

/-- The value in a layer under the names of a section and of a key. -/
def named? (layer : Value) (name key : String) : Option Value :=
  match layer with
  | .table sections => (sectionOf sections name).get? key
  | _ => none

/-- Where tables lead to a section, values are found by their names. -/
theorem found?_of_not_listed {part : Part Value} {layer : Value} (h : ¬Listed part.name layer)
    (key : String) : part.found? layer key = named? layer part.name key := by
  cases layer with
  | array items => exact absurd (.root items) h
  | table sections =>
    have hfound : part.found? (.table sections) key =
        (Table.get? sections part.name).bind fun inner ↦ (part.shape.named inner).lookup key := rfl
    rw [hfound, named?, sectionOf]
    cases hvalue : Table.get? sections part.name with
    | none => rfl
    | some value =>
      cases value with
      | array items => exact absurd (.inside hvalue) h
      | _ => rfl
  | _ => rfl

/-- What a layer does to the fields that it does not name.  Where tables lead to the section, they
stay as they were.  Where a list stands in their place, they are what the list holds in their place,
or else the default, and so they stay as they were if they were just that. -/
structure Framed (layer : Value) (before after : Settings) : Prop where
  kept : ∀ part ∈ parts (V := Value), ¬Listed part.name layer → ∀ field ∈ part.fields,
    named? layer part.name field.key = none →
      field.get (part.get after) = field.get (part.get before)
  reset : ∀ part ∈ parts (V := Value), Listed part.name layer → ∀ field ∈ part.fields,
    field.Follows (part.found? layer field.key) (part.get {}) (part.get after)
  kept_iff : ∀ part ∈ parts (V := Value), Listed part.name layer → ∀ field ∈ part.fields,
    (field.get (part.get after) = field.get (part.get before) ↔
      field.Follows (part.found? layer field.key) (part.get {}) (part.get before))

/-- An accepted layer leaves every field alone that it does not reach. -/
theorem framed_of_overlay {layer : Value} (hlayer : layer.WellFormed) {before after : Settings}
    (hok : before.overlay layer = .ok after) : Framed layer before after where
  kept part hpart hlisted field hfield hunnamed := by
    have hfollows := (follows_overlay hlayer hok hpart hfield).1 hlisted
    rw [found?_of_not_listed hlisted, hunnamed] at hfollows
    exact hfollows
  reset part hpart hlisted field hfield := (follows_overlay hlayer hok hpart hfield).2 hlisted
  kept_iff part hpart hlisted field hfield :=
    ((follows_overlay hlayer hok hpart hfield).2 hlisted).get_eq_iff

/-! ## Empty lists -/

/-- The layer with an empty list in the place of a section. -/
def emptyList (name : String) : Value := .table [(name, .array [])]

theorem emptyList_wellFormed (name : String) : (emptyList name).WellFormed := by
  refine .table (by simp [Table.Ascending]) ?_
  simp only [List.mem_singleton, forall_eq]
  exact .array (by simp)

theorem get?_emptyList {name key : String} {value : Value}
    (h : Table.get? [(name, .array [])] key = some value) : value = .array [] :=
  congrArg Prod.snd (List.mem_singleton.mp (Table.mem_of_get? h))

theorem found?_emptyList (part : Part Value) (key : String) :
    part.found? (emptyList part.name) key = none := by
  have hsection : (Settings.shape.named (emptyList part.name)).lookup part.name =
      some (.array []) := List.lookup_cons_self
  have hnone : (part.shape.named (.array [])).lookup key = none := by
    unfold Shape.named
    simp [DataTree.view, Value.view]
  rw [Part.found?, hsection, Option.bind_some, hnone]

/-- An empty list in place of a part gives the part its defaults. -/
theorem ofValue_emptyList :
    ∀ part ∈ parts (V := Value), ofValue (emptyList part.name) = .ok {} := by
  simp only [parts, List.forall_mem_cons]
  exact ⟨rfl, rfl, rfl, by simp⟩

/-- An empty list in the place of a section is accepted over all settings. -/
theorem exists_overlay_emptyList {settings : Settings} (hsettings : settings.Bounded)
    {part : Part Value} (hpart : part ∈ parts) :
    ∃ after, settings.overlay (emptyList part.name) = .ok after := by
  obtain ⟨base, hbase⟩ := hsettings.exists_toValue
  obtain ⟨-, table, rfl, hencodes, hparts⟩ := spells hbase
  have hsame : refusal? (ofValue ((Value.table table).merge (emptyList part.name))) =
      refusal? (ofValue (emptyList part.name)) := by
    -- The list takes the place of the whole table, so the merged section is the layer's own.
    rw [emptyList, Value.merge_table]
    refine hencodes.refusal?_merge consists (emptyList_wellFormed _).ascending
      fun field hfield value hvalue ↦ ?_
    obtain ⟨other, hother, rfl⟩ := List.mem_map.mp hfield
    obtain ⟨inner, hget, -⟩ := hparts other hother
    rw [get?_emptyList hvalue, show table.get? other.field.key = some (.table inner) from hget,
      mergeEntry, Value.merge_of_not_table (by simp)]
  rw [ofValue_emptyList part hpart] at hsame
  obtain ⟨after, hafter⟩ := refusal?_eq_none_iff.mp hsame
  refine ⟨after, ?_⟩
  rw [overlay_eq hbase, hafter]
  rfl

/-- An empty list in the place of a section sets the section to the default. -/
theorem get_of_overlay_emptyList {before after : Settings} {part : Part Value}
    (hpart : part ∈ parts) (hok : before.overlay (emptyList part.name) = .ok after) :
    part.get after = part.get {} := by
  have hlisted : Listed part.name (emptyList part.name) := .inside List.lookup_cons_self
  have hframed := framed_of_overlay (emptyList_wellFormed _) hok
  refine (parts_consist part hpart).complete _ _ fun field hfield ↦ ?_
  have hreset := hframed.reset part hpart hlisted field hfield
  rw [found?_emptyList] at hreset
  exact hreset

namespace Loader

theorem readLayer_emptyList : readLayer .toml "server = []" = .ok (emptyList "server") := by
  unfold readLayer Value.read? readSections
  rw [show "server = []".toList = _ from String.toList_ofList]
  cbv

theorem withText_emptyList {loader : Loader} {after : Settings}
    (hafter : loader.settings.overlay (emptyList "server") = .ok after) :
    loader.withText "server = []" "toml" = .ok { loader with settings := after } := by
  have hlanguage : Language.ofName? "toml" = some .toml := by cbv
  rw [withText, overlayText, hlanguage]
  dsimp only
  rw [readLayer_emptyList]
  dsimp only [bind, Except.bind]
  rw [hafter]
  rfl

theorem withFile_emptyList {loader : Loader} {after : Settings}
    (hafter : loader.settings.overlay (emptyList "server") = .ok after) :
    loader.withFile (.ofPaths [("a.toml", .file (Utf8.encode "server = []".toList))]) "a.toml" =
      .ok { loader with settings := after, fileLoaded := true } := by
  have hfile (bytes : List UInt8) : Files.find? (.ofPaths [("a.toml", .file bytes)]) "a.toml" =
      some (.file bytes) := by cbv
  have hlanguage : (Files.extension? "a.toml").bind Language.ofName? = some .toml := by cbv
  unfold withFile
  rw [hfile]
  dsimp only
  rw [Utf8.decode?_encode]
  dsimp only
  rw [hlanguage]
  dsimp only
  rw [String.ofList_toList, readLayer_emptyList]
  dsimp only [bind, Except.bind]
  rw [hafter]
  rfl

/-- Every text and every file that a loader accepts spells a layer, and sets the fields that the
layer does not name only where a list stands in the place of a table. -/
theorem unnamed_fields (loader : Loader) :
    (∀ content format next, loader.withText content format = .ok next →
      ∃ layer, textLayer? content format = some layer ∧
        Framed layer loader.settings next.settings) ∧
    (∀ files path next, loader.withFile files path = .ok next →
      ∃ layer, fileLayer? files path = some layer ∧
        Framed layer loader.settings next.settings) := by
  constructor
  · intro content format next hrun
    obtain ⟨layer, hspells, hlayer, hmerged⟩ := exists_textLayer?_of_withText hrun
    exact ⟨layer, hspells, framed_of_overlay hlayer hmerged⟩
  · intro files path next hrun
    obtain ⟨layer, hspells, hlayer, hmerged⟩ := exists_fileLayer?_of_withFile hrun
    exact ⟨layer, hspells, framed_of_overlay hlayer hmerged⟩

/-- The first loader with a text that holds an empty list, and with a file that holds the text. -/
theorem unnamed_fields_of_empty_list :
    ∃ files next loaded, withText {} "server = []" "toml" = .ok next ∧
      withFile {} files "a.toml" = .ok loaded ∧
      (∃ layer, textLayer? "server = []" "toml" = some layer ∧ Framed layer {} next.settings) ∧
      ∃ layer, fileLayer? files "a.toml" = some layer ∧ Framed layer {} loaded.settings := by
  have hserver : serverPart ∈ parts (V := Value) := by simp [parts]
  obtain ⟨after, hafter⟩ := exists_overlay_emptyList Reachable.start.bounded hserver
  have htext := withText_emptyList hafter
  have hfile := withFile_emptyList hafter
  obtain ⟨hoftext, hoffile⟩ := unnamed_fields {}
  exact ⟨_, _, _, htext, hfile, hoftext _ _ _ htext, hoffile _ _ _ hfile⟩

/-- A loader that can be reached accepts a text that names no address, and the text resets the
address of the loader. -/
theorem empty_list_resets_address :
    ∃ loader next layer, Reachable loader ∧ loader.withText "server = []" "toml" = .ok next ∧
      textLayer? "server = []" "toml" = some layer ∧ named? layer "server" "http_addr" = none ∧
      loader.settings.server.address = "127.0.0.1:8080" ∧
      next.settings.server.address = "0.0.0.0:8080" := by
  have hrun : run {} ({}, []) .development = .ok ({ settings := development }, []) := rfl
  have hloader : Reachable { settings := development } := .step .start hrun
  have hserver : serverPart ∈ parts (V := Value) := by simp [parts]
  obtain ⟨after, hafter⟩ := exists_overlay_emptyList hloader.bounded hserver
  have hreset : after.server = {} := get_of_overlay_emptyList hserver hafter
  have hlayer : textLayer? "server = []" "toml" = some (emptyList "server") := by
    rw [textLayer?, show Language.ofName? "toml" = some .toml by cbv, Option.bind_some,
      readLayer_emptyList, Except.toOption]
  exact ⟨_, _, _, hloader, withText_emptyList hafter, hlayer, rfl, rfl, by rw [hreset]⟩

end Loader

end ApiReference.Settings
