import ApiReference.Proofs.Settings.Fields
import ApiReference.Proofs.Toml.Reader

/-!
# The Law of Layers

A layer over settings sets the fields that it names and leaves the others.  Whether it is refused,
and why, is a matter of the layer alone.
-/

namespace ApiReference.Settings

open Decode Toml

/-! ## Layers of sections -/

/-- A layer has tables in the places of the sections. -/
def Sectioned (layer : Table Value) : Prop :=
  ∀ part ∈ parts (V := Value), ∀ value, layer.get? part.name = some value →
    ∃ inner, value = .table inner

/-- The table of a section of a layer, which is empty if the section is left out. -/
def sectionOf (layer : Table Value) (name : String) : Table Value :=
  match layer.get? name with
  | some (.table inner) => inner
  | _ => []

/-- A layer names sections and their fields only, with values that can be read. -/
def Fits (layer : Table Value) : Prop :=
  ∀ entry ∈ layer, ∃ part ∈ parts (V := Value), part.name = entry.1 ∧
    ∀ inner, entry.2 = .table inner → ∀ member ∈ inner, ∃ field ∈ part.fields,
      field.key = member.1 ∧ ∃ content, field.read member.2 = .ok content

/-- Settings hold what a layer names, and elsewhere what was there before. -/
def Layered (layer : Table Value) (before after : Settings) : Prop :=
  ∀ part ∈ parts (V := Value), ∀ field ∈ part.fields,
    field.Follows ((sectionOf layer part.name).get? field.key) (part.get before) (part.get after)

variable {layer : Table Value}

/-- A layer is accepted alone just if each of its members fits. -/
theorem accepts_iff_fits (hsections : Sectioned layer) (hlayer : layer.Ascending) :
    (∃ settings, ofValue (.table layer) = .ok settings) ↔ Fits layer := by
  refine (record_table_accepts_iff consists layer).trans (forall₂_congr fun entry hentry ↦ ?_)
  have hget : layer.get? entry.1 = some entry.2 := Table.get?_of_mem hlayer hentry
  constructor
  · rintro ⟨field, hfield, hkey, hcontent⟩
    obtain ⟨part, hpart, rfl⟩ := List.mem_map.mp hfield
    refine ⟨part, hpart, hkey, fun inner hinner ↦ ?_⟩
    rw [hinner] at hcontent
    exact (record_table_accepts_iff (parts_consist part hpart) inner).mp hcontent
  · rintro ⟨part, hpart, hkey, hinner⟩
    obtain ⟨inner, hvalue⟩ := hsections part hpart entry.2 (hkey ▸ hget)
    refine ⟨part.field, List.mem_map_of_mem hpart, hkey, ?_⟩
    rw [hvalue]
    exact (record_table_accepts_iff (parts_consist part hpart) inner).mpr (hinner inner hvalue)

/-! ## Merging a layer -/

section

variable {settings after : Settings} {base : Value}

/-- A layer over settings is refused with what it is refused with alone. -/
theorem refusal?_merge (hbase : settings.toValue = .ok base) (hsections : Sectioned layer)
    (hlayer : (Value.table layer).WellFormed) :
    refusal? (ofValue (base.merge (.table layer))) = refusal? (ofValue (.table layer)) := by
  obtain ⟨-, table, rfl, hencodes, hparts⟩ := spells hbase
  rw [Value.merge_table]
  refine hencodes.refusal?_merge consists hlayer.ascending fun field hfield value hvalue ↦ ?_
  obtain ⟨part, hpart, rfl⟩ := List.mem_map.mp hfield
  obtain ⟨inner, rfl⟩ := hsections part hpart value hvalue
  obtain ⟨baseInner, hget, hflat, hinner⟩ := hparts part hpart
  have hmerged : mergeEntry (table.get? part.field.key) (.table inner) =
      .table (mergeEntries baseInner inner) := by
    rw [show table.get? part.field.key = some (.table baseInner) from hget, mergeEntry,
      Value.merge_table]
  rw [hmerged]
  exact hinner.refusal?_merge (parts_consist part hpart) (hlayer.of_get? hvalue).ascending
    fun field _ value _ ↦ by rw [hflat.mergeEntry_eq]

/-- Merged settings have the fields of the layer, and below them those there were. -/
theorem layered_merge (hbase : settings.toValue = .ok base) (hsections : Sectioned layer)
    (hlayer : (Value.table layer).WellFormed)
    (hok : ofValue (base.merge (.table layer)) = .ok after) : Layered layer settings after := by
  obtain ⟨-, table, rfl, hencodes, hparts⟩ := spells hbase
  rw [Value.merge_table] at hok
  intro part hpart field hfield
  obtain ⟨baseInner, hget, hflat, hinner⟩ := hparts part hpart
  have hsection :=
    hencodes.follows_merge consists hlayer.ascending hok (List.mem_map_of_mem hpart)
  unfold sectionOf
  cases hvalue : layer.get? part.name with
  | none =>
    rw [show layer.get? part.field.key = none from hvalue] at hsection
    exact congrArg field.get hsection
  | some value =>
    obtain ⟨inner, rfl⟩ := hsections part hpart value hvalue
    rw [show layer.get? part.field.key = some (.table inner) from hvalue,
      show table.get? part.field.key = some (.table baseInner) from hget, Option.map_some,
      mergeEntry, Value.merge_table] at hsection
    exact hinner.follows_flat_merge (parts_consist part hpart) hflat
      (hlayer.of_get? hvalue).ascending hsection hfield

end

/-- There is one way to lay a layer over settings. -/
theorem Layered.unique {before after other : Settings} (hafter : Layered layer before after)
    (hother : Layered layer before other) : after = other := by
  refine consists.complete (V := Value) after other fun field hfield ↦ ?_
  obtain ⟨part, hpart, rfl⟩ := List.mem_map.mp hfield
  refine (parts_consist part hpart).complete _ _ fun field hfield ↦ ?_
  exact (hafter part hpart field hfield).unique (hother part hpart field hfield)

/-! ## Timeouts -/

/-- The timeouts fit 64 bits with a sign. -/
def Bounded (settings : Settings) : Prop :=
  settings.server.shutdownSeconds.toNat < Decimal.Word.signedLimit ∧
    settings.server.requestMillis.toNat < Decimal.Word.signedLimit

theorem bounded_presets : ∀ settings ∈ [{}, development, production], settings.Bounded := by
  unfold Bounded
  decide

theorem Bounded.exists_toValue {settings : Settings} (h : settings.Bounded) :
    ∃ value, settings.toValue = .ok value := by
  have hserver : ∃ value, settings.server.toValue = .ok value := by
    unfold Server.toValue integer
    rw [if_pos h.1, if_pos h.2]
    exact ⟨_, rfl⟩
  obtain ⟨value, hvalue⟩ := hserver
  unfold Settings.toValue
  rw [hvalue]
  exact ⟨_, rfl⟩

theorem count_bounded {value : Value} (hvalue : value.WellFormed) {n : UInt64}
    (h : FromTree.count value = .ok n) : n.toNat < Decimal.Word.signedLimit := by
  unfold FromTree.count at h
  cases hvalue with
  | integer hlimit =>
    simp only [DataTree.view, Value.view] at h
    split at h
    case isTrue hrange =>
      cases h
      have hsmall := (Int.toNat_lt hrange.1).mpr hlimit
      have hword := (Int.toNat_lt hrange.1).mpr hrange.2
      rw [Nat.toUInt64, UInt64.toNat_ofNat_of_lt' hword]
      exact hsmall
    case isFalse => cases h
  | _ => cases h

theorem follows_bounded {key : String} {get : Server → UInt64} {set : UInt64 → Server → Server}
    {value? : Option Value} (hvalue : ∀ value, value? = some value → value.WellFormed)
    {before after : Server} (hbefore : (get before).toNat < Decimal.Word.signedLimit)
    (h : Field.Follows ⟨UInt64, key, Source.count, get, set⟩ value? before after) :
    (get after).toNat < Decimal.Word.signedLimit := by
  cases value? with
  | none =>
    have hsame : get after = get before := h
    rw [hsame]
    exact hbefore
  | some value => exact count_bounded (hvalue value rfl) h

theorem Server.bounded {value : Value} (hvalue : value.WellFormed) {server : Server}
    (hok : FromTree.record Server.shape value = .ok server) :
    server.shutdownSeconds.toNat < Decimal.Word.signedLimit ∧
      server.requestMillis.toNat < Decimal.Word.signedLimit := by
  obtain ⟨hnodup, hwell⟩ := named_wellFormed Server.consists.nodup_keys hvalue
  have hfollows : ∀ field ∈ Server.fields, field.Follows _ _ server :=
    fun field hfield ↦ Server.consists.follows_of_record hnodup hok hfield
  have hlookup : ∀ key found, (Server.shape.named value).lookup key = some found →
      found.WellFormed := fun key found h ↦ hwell _ (Table.mem_of_get? h)
  simp only [Server.fields, List.forall_mem_cons] at hfollows
  obtain ⟨-, hshutdown, hrequest, -⟩ := hfollows
  exact ⟨follows_bounded (hlookup _) (by decide) hshutdown,
    follows_bounded (hlookup _) (by decide) hrequest⟩

theorem bounded_of_ofValue {value : Value} (hvalue : value.WellFormed) {settings : Settings}
    (hok : ofValue value = .ok settings) : settings.Bounded := by
  obtain ⟨hnodup, hwell⟩ := named_wellFormed consists.nodup_keys hvalue
  have hfollows : ∀ field ∈ parts.map Part.field, field.Follows _ _ settings :=
    fun field hfield ↦ consists.follows_of_record hnodup hok hfield
  simp only [parts, List.map_cons, List.forall_mem_cons] at hfollows
  obtain ⟨hserver, -⟩ := hfollows
  cases hfound : (Settings.shape.named value).lookup "server" with
  | none =>
    have hdefault : settings.server = {} := by
      rw [Part.field, hfound] at hserver
      exact hserver
    unfold Bounded
    rw [hdefault]
    decide
  | some found =>
    rw [Part.field, hfound] at hserver
    exact Server.bounded (hwell _ (Table.mem_of_get? hfound)) hserver

theorem wellFormed_of_readLayer {language : Language} {text : String} {value : Value}
    (h : readLayer language text = .ok value) : value.WellFormed := by
  cases language with
  | toml =>
    unfold readLayer at h
    dsimp only at h
    split at h
    case h_1 found hfound =>
      cases h
      exact Value.wellFormed_of_read? hfound
    case h_2 => cases h
  | json => exact Value.wellFormed_of_readJson (eq_ok_of_mapError_eq_ok h)

/-- Settings that can be written are merged as tables and read again. -/
theorem overlay_eq {settings : Settings} {base : Value} (h : settings.toValue = .ok base)
    (layer : Value) : settings.overlay layer =
      (ofValue (base.merge layer)).mapError fun refusal ↦ .toml (.refused refusal) := by
  rw [overlay, h]
  dsimp only [bind, Except.bind]
  cases ofValue (base.merge layer) with
  | ok merged => rfl
  | error refusal => rfl

/-! ## Layers over settings -/

theorem bounded_of_overlay {settings merged : Settings} {layer : Value}
    (hlayer : layer.WellFormed) (hok : settings.overlay layer = .ok merged) : merged.Bounded := by
  obtain ⟨base, hbase, -⟩ := exists_of_bind_eq_ok hok
  rw [overlay_eq hbase] at hok
  exact bounded_of_ofValue ((spells hbase).1.merge hlayer) (eq_ok_of_mapError_eq_ok hok)

/-- A layer is refused for what it is, not for the settings below it. -/
theorem overlay_error_iff {settings : Settings} (hsettings : settings.Bounded)
    (hsections : Sectioned layer) (hlayer : (Value.table layer).WellFormed) {error : Error} :
    settings.overlay (.table layer) = .error error ↔
      ∃ refusal, ofValue (.table layer) = .error refusal ∧ error = .toml (.refused refusal) := by
  obtain ⟨base, hbase⟩ := hsettings.exists_toValue
  have hsame := refusal?_merge hbase hsections hlayer
  rw [overlay_eq hbase]
  cases hmerged : ofValue (base.merge (.table layer)) with
  | ok merged =>
    rw [hmerged] at hsame
    obtain ⟨alone, halone⟩ := refusal?_eq_none_iff.mp hsame.symm
    simp [halone, Except.mapError]
  | error refusal =>
    rw [hmerged] at hsame
    rw [refusal?_eq_some_iff.mp hsame.symm]
    simp [Except.mapError, eq_comm]

theorem overlay_ok_iff {settings : Settings} (hsettings : settings.Bounded)
    (hsections : Sectioned layer) (hlayer : (Value.table layer).WellFormed) {merged : Settings} :
    settings.overlay (.table layer) = .ok merged ↔
      Fits layer ∧ Layered layer settings merged := by
  obtain ⟨base, hbase⟩ := hsettings.exists_toValue
  have hsame := refusal?_merge hbase hsections hlayer
  have haccepts := accepts_iff_fits hsections hlayer.ascending
  rw [overlay_eq hbase]
  constructor
  · intro hok
    have hread := eq_ok_of_mapError_eq_ok hok
    rw [hread] at hsame
    exact ⟨haccepts.mp (refusal?_eq_none_iff.mp hsame.symm),
      layered_merge hbase hsections hlayer hread⟩
  · rintro ⟨hfits, hlayered⟩
    rw [refusal?_eq_none_iff.mpr (haccepts.mpr hfits)] at hsame
    obtain ⟨after, hafter⟩ := refusal?_eq_none_iff.mp hsame
    rw [hafter, (layered_merge hbase hsections hlayer hafter).unique hlayered]
    rfl

theorem exists_overlay_iff_fits {settings : Settings} (hsettings : settings.Bounded)
    (hsections : Sectioned layer) (hlayer : (Value.table layer).WellFormed) :
    (∃ merged, settings.overlay (.table layer) = .ok merged) ↔ Fits layer := by
  constructor
  · rintro ⟨merged, hmerged⟩
    exact ((overlay_ok_iff hsettings hsections hlayer).mp hmerged).1
  · intro hfits
    cases hmerged : settings.overlay (.table layer) with
    | ok merged => exact ⟨merged, rfl⟩
    | error error =>
      obtain ⟨refusal, hrefusal, -⟩ := (overlay_error_iff hsettings hsections hlayer).mp hmerged
      obtain ⟨alone, halone⟩ := (accepts_iff_fits hsections hlayer.ascending).mpr hfits
      rw [halone] at hrefusal
      cases hrefusal

/-! ## Layers of any shape -/

/-- The value in a layer of a key of a section.  In a list a value is found by its place. -/
def Part.found? (part : Part Value) (layer : Value) (key : String) : Option Value :=
  ((Settings.shape.named layer).lookup part.name).bind fun inner ↦
    (part.shape.named inner).lookup key

theorem get_default : ∀ part ∈ parts (V := Value), part.get {} = part.shape.initial := by
  simp only [parts, List.forall_mem_cons]
  exact ⟨rfl, rfl, rfl, by simp⟩

/-- A part that is read for itself starts from its defaults. -/
theorem follows_of_section {part : Part Value} (hpart : part ∈ parts) {value : Value}
    (hvalue : value.WellFormed) {record : part.Record}
    (hok : FromTree.record part.shape value = .ok record) {field : Field Value part.Record}
    (hfield : field ∈ part.fields) :
    field.Follows ((part.shape.named value).lookup field.key) (part.get {}) record := by
  have hconsists := parts_consist part hpart
  rw [get_default part hpart]
  exact hconsists.follows_of_record (named_wellFormed hconsists.nodup_keys hvalue).1 hok hfield

/-- Of a layer on its own every value is read that is found there, and what is not found is the
default. -/
theorem follows_of_ofValue {layer : Value} (hlayer : layer.WellFormed) {settings : Settings}
    (hok : ofValue layer = .ok settings) {part : Part Value} (hpart : part ∈ parts)
    {field : Field Value part.Record} (hfield : field ∈ part.fields) :
    field.Follows (part.found? layer field.key) (part.get {}) (part.get settings) := by
  have hmem : part.field ∈ parts.map Part.field := List.mem_map_of_mem hpart
  obtain ⟨hnodup, hwell⟩ := named_wellFormed consists.nodup_keys hlayer
  have hsection := consists.follows_of_record hnodup hok hmem
  unfold Part.found?
  cases hvalue : (Settings.shape.named layer).lookup part.name with
  | none =>
    rw [show (Settings.shape.named layer).lookup part.field.key = none from hvalue] at hsection
    exact congrArg field.get hsection
  | some value =>
    rw [show (Settings.shape.named layer).lookup part.field.key = some value from hvalue]
      at hsection
    exact follows_of_section hpart (hwell _ (Table.mem_of_get? hvalue)) hsection hfield

/-- A list stands in a layer in the place of the table of a section, or of the table of all
sections. -/
inductive Listed (name : String) : Value → Prop where
  | root (items : List Value) : Listed name (.array items)
  | inside {sections : Table Value} {items : List Value}
    (h : sections.get? name = some (.array items)) : Listed name (.table sections)

/-- Over settings every value of a layer is read that is found there.  What is not found stays as it
was where tables lead to the section, and is the default where a list stands in their place. -/
theorem follows_overlay {layer : Value} (hlayer : layer.WellFormed) {before after : Settings}
    (hok : before.overlay layer = .ok after) {part : Part Value} (hpart : part ∈ parts)
    {field : Field Value part.Record} (hfield : field ∈ part.fields) :
    (¬Listed part.name layer →
      field.Follows (part.found? layer field.key) (part.get before) (part.get after)) ∧
    (Listed part.name layer →
      field.Follows (part.found? layer field.key) (part.get {}) (part.get after)) := by
  obtain ⟨base, hbase, -⟩ := exists_of_bind_eq_ok hok
  rw [overlay_eq hbase] at hok
  have hread := eq_ok_of_mapError_eq_ok hok
  cases layer with
  | array items =>
    rw [Value.merge_of_not_table (by simp)] at hread
    exact ⟨fun h ↦ absurd (.root items) h, fun _ ↦ follows_of_ofValue hlayer hread hpart hfield⟩
  | table sections =>
    obtain ⟨-, table, rfl, hencodes, hparts⟩ := spells hbase
    obtain ⟨inner, hget, hflat, hinner⟩ := hparts part hpart
    rw [Value.merge_table] at hread
    have hsection :=
      hencodes.follows_merge consists hlayer.ascending hread (List.mem_map_of_mem hpart)
    rw [show table.get? part.field.key = some (.table inner) from hget] at hsection
    have hfound : part.found? (.table sections) field.key =
        (Table.get? sections part.field.key).bind fun value ↦
          (part.shape.named value).lookup field.key := rfl
    rw [hfound]
    cases hvalue : Table.get? sections part.field.key with
    | none =>
      rw [hvalue] at hsection
      refine ⟨fun _ ↦ congrArg field.get hsection, ?_⟩
      rintro (_ | hlist)
      cases hlist.symm.trans hvalue
    | some value =>
      rw [hvalue, Option.map_some, mergeEntry] at hsection
      have hwell := hlayer.of_get? hvalue
      cases value with
      | array items =>
        rw [Value.merge_of_not_table (by simp)] at hsection
        exact ⟨fun h ↦ absurd (.inside hvalue) h, fun _ ↦
          follows_of_section hpart hwell hsection hfield⟩
      | table entries =>
        rw [Value.merge_table] at hsection
        refine ⟨fun _ ↦ hinner.follows_flat_merge (parts_consist part hpart) hflat hwell.ascending
          hsection hfield, ?_⟩
        rintro (_ | hlist)
        cases hlist.symm.trans hvalue
      | _ =>
        rw [Value.merge_of_not_table (by simp)] at hsection
        cases hsection
  | _ =>
    rw [Value.merge_of_not_table (by simp)] at hread
    cases hread

/-- Over the defaults every value of a layer is read that is found there, and what is not found is
the default. -/
theorem follows_overlay_default {layer : Value} (hlayer : layer.WellFormed) {settings : Settings}
    (hok : overlay {} layer = .ok settings) {part : Part Value} (hpart : part ∈ parts)
    {field : Field Value part.Record} (hfield : field ∈ part.fields) :
    field.Follows (part.found? layer field.key) (part.get {}) (part.get settings) := by
  obtain ⟨hkept, hreset⟩ := follows_overlay hlayer hok hpart hfield
  by_cases hlisted : Listed part.name layer
  · exact hreset hlisted
  · exact hkept hlisted

end ApiReference.Settings
