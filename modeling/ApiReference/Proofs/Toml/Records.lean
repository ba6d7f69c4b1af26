import ApiReference.Proofs.Decode.Fields
import ApiReference.Proofs.Toml.Merge
import ApiReference.Toml.Tree

/-!
# Records as Tables

A record that is written as a table is read from it again.  A layer over such a table is refused as
it is on its own, and what it leaves out stays as it is in the record.
-/

namespace ApiReference.Toml

open Decode

variable {ρ : Type} {shape : Shape (FromTree Value) ρ} {fields : List (Field Value ρ)}

/-! ## Reading tables -/

theorem refusal?_record_table (h : shape.Consists fields) (table : Table Value) :
    refusal? (FromTree.record shape (.table table)) =
      table.findSome? fun entry ↦ shape.memberRefusal? entry.1 entry.2 := by
  rw [← FromTree.refusal?_foldlM_recordMember shape table shape.initial, ← h.recordMembers_eq]
  rfl

theorem record_table_accepts_iff (h : shape.Consists fields) (table : Table Value) :
    (∃ record, FromTree.record shape (.table table) = .ok record) ↔
      ∀ entry ∈ table, ∃ field ∈ fields, field.key = entry.1 ∧
        ∃ content, field.read entry.2 = .ok content := by
  rw [← refusal?_eq_none_iff, refusal?_record_table h, List.findSome?_eq_none_iff]
  constructor
  · intro haccepted entry hentry
    obtain ⟨after, hafter⟩ := refusal?_eq_none_iff.mp (haccepted entry hentry)
    obtain ⟨field, hfield, hkey, content, hread, -⟩ := h.of_recordMember hafter
    exact ⟨field, hfield, hkey, content, hread⟩
  · intro hread entry hentry
    obtain ⟨field, hfield, hkey, hcontent⟩ := hread entry hentry
    rw [← hkey, h.memberRefusal?_of_mem hfield, refusal?_eq_none_iff.mpr hcontent, Option.map_none]

theorem nodup_of_ascending {α : Type} {table : Table α} (h : table.Ascending) :
    (table.map Prod.fst).Nodup :=
  List.pairwise_map.mpr (h.imp fun hlt ↦ hlt.ne)

theorem follows_of_record_table (h : shape.Consists fields) {table : Table Value}
    (hascending : table.Ascending) {after : ρ}
    (hok : FromTree.record shape (.table table) = .ok after) {field : Field Value ρ}
    (hfield : field ∈ fields) : field.Follows (table.get? field.key) shape.initial after := by
  have hnamed : ((shape.named (Value.table table)).map Prod.fst).Nodup :=
    nodup_of_ascending hascending
  exact h.follows_of_record hnamed hok hfield

theorem map_fst_zip_sublist (keys : List String) (items : List Value) :
    ((keys.zip items).map Prod.fst).Sublist keys := by
  induction keys generalizing items with
  | nil => simp
  | cons key keys ih =>
    cases items with
    | nil => simp
    | cons item items => exact (ih items).cons_cons key

/-- The members of a well-formed value are well-formed and have different keys. -/
theorem named_wellFormed {ρ : Type} {shape : Shape (FromTree Value) ρ} (hkeys : shape.keys.Nodup)
    {value : Value} (hvalue : value.WellFormed) :
    ((shape.named value).map Prod.fst).Nodup ∧
      ∀ entry ∈ shape.named value, entry.2.WellFormed := by
  unfold Shape.named
  cases hvalue with
  | table hascending hentries => exact ⟨nodup_of_ascending hascending, hentries⟩
  | array hitems =>
    exact ⟨hkeys.sublist (map_fst_zip_sublist _ _), fun entry hentry ↦
      hitems _ (List.of_mem_zip hentry).2⟩
  | _ => exact ⟨List.nodup_nil, by simp [DataTree.view, Value.view]⟩

/-! ## Tables of records -/

/-- No value of a table is a table. -/
def Table.Flat (table : Table Value) : Prop :=
  ∀ entry ∈ table, ∀ entries, entry.2 ≠ .table entries

theorem Table.flat_ofEntries {entries : List (String × Value)}
    (h : ∀ entry ∈ entries, ∀ inner, entry.2 ≠ .table inner) : (ofEntries entries).Flat :=
  fun entry hentry ↦ h entry (mem_of_mem_ofEntries hentry)

theorem Table.Flat.mergeEntry_eq {table : Table Value} (h : table.Flat) (key : String)
    (value : Value) : mergeEntry (table.get? key) value = value := by
  cases hbase : table.get? key with
  | none => rw [mergeEntry]
  | some base =>
    rw [mergeEntry]
    exact Value.merge_of_base_not_table (h _ (mem_of_get? hbase)) value

/-- A table holds the fields of a record, and nothing else. -/
structure Table.Encodes (table : Table Value) (shape : Shape (FromTree Value) ρ)
    (fields : List (Field Value ρ)) (record : ρ) : Prop where
  ascending : table.Ascending
  known : ∀ entry ∈ table, ∃ field ∈ fields, field.key = entry.1
  follows : ∀ field ∈ fields, field.Follows (table.get? field.key) shape.initial record

namespace Table.Encodes

variable {table : Table Value} {record : ρ}

theorem memberRefusal?_eq_none (h : shape.Consists fields)
    (hencodes : table.Encodes shape fields record) {key : String} {value : Value}
    (hget : table.get? key = some value) : shape.memberRefusal? key value = none := by
  obtain ⟨field, hfield, rfl⟩ := hencodes.known _ (mem_of_get? hget)
  have hfollows := hencodes.follows field hfield
  rw [hget] at hfollows
  rw [h.memberRefusal?_of_mem hfield, hfollows]
  rfl

/-- What a table holds is read from it. -/
theorem record_eq (h : shape.Consists fields) (hencodes : table.Encodes shape fields record) :
    FromTree.record shape (.table table) = .ok record := by
  have haccepted : refusal? (FromTree.record shape (.table table)) = none := by
    rw [refusal?_record_table h, List.findSome?_eq_none_iff]
    intro entry hentry
    exact hencodes.memberRefusal?_eq_none h (get?_of_mem hencodes.ascending hentry)
  obtain ⟨after, hafter⟩ := refusal?_eq_none_iff.mp haccepted
  rw [hafter]
  refine congrArg Except.ok (h.complete after record fun field hfield ↦ ?_)
  have hread := follows_of_record_table h hencodes.ascending hafter hfield
  exact hread.unique (hencodes.follows field hfield)

theorem ofEntries {entries : List (String × Value)} (hdistinct : (entries.map Prod.fst).Nodup)
    (hknown : ∀ entry ∈ entries, ∃ field ∈ fields, field.key = entry.1)
    (hfollows : ∀ field ∈ fields, field.Follows (entries.lookup field.key) shape.initial record) :
    (Table.ofEntries entries).Encodes shape fields record where
  ascending := ascending_ofEntries entries
  known entry hentry := hknown entry (mem_of_mem_ofEntries hentry)
  follows field hfield := by
    rw [get?_ofEntries hdistinct]
    exact hfollows field hfield

/-! ## Layers over a record -/

variable {layer : Table Value}

/-- A layer over a record is refused as it is on its own, if merging does not change why its values
are refused. -/
theorem refusal?_merge (h : shape.Consists fields) (hencodes : table.Encodes shape fields record)
    (hlayer : layer.Ascending)
    (hsame : ∀ field ∈ fields, ∀ value, layer.get? field.key = some value →
      refusal? (field.read (mergeEntry (table.get? field.key) value)) =
        refusal? (field.read value)) :
    refusal? (FromTree.record shape (.table (mergeEntries table layer))) =
      refusal? (FromTree.record shape (.table layer)) := by
  rw [refusal?_record_table h, refusal?_record_table h]
  refine findSome?_congr (ascending_mergeEntries hencodes.ascending layer) hlayer fun key ↦ ?_
  rw [get?_mergeEntries hlayer]
  cases hvalue : layer.get? key with
  | none =>
    rw [Option.map_none, Option.none_or, Option.bind_none]
    cases hbase : table.get? key with
    | none => rfl
    | some base => exact hencodes.memberRefusal?_eq_none h hbase
  | some value =>
    rw [Option.map_some, Option.some_or, Option.bind_some, Option.bind_some]
    by_cases hkey : ∃ field ∈ fields, field.key = key
    · obtain ⟨field, hfield, rfl⟩ := hkey
      rw [h.memberRefusal?_of_mem hfield, h.memberRefusal?_of_mem hfield,
        hsame field hfield value hvalue]
    · have hne : ∀ field ∈ fields, field.key ≠ key := fun field hfield heq ↦
        hkey ⟨field, hfield, heq⟩
      rw [h.memberRefusal?_of_ne hne, h.memberRefusal?_of_ne hne]

theorem follows_merge (h : shape.Consists fields) (hencodes : table.Encodes shape fields record)
    (hlayer : layer.Ascending) {after : ρ}
    (hok : FromTree.record shape (.table (mergeEntries table layer)) = .ok after)
    {field : Field Value ρ} (hfield : field ∈ fields) :
    field.Follows ((layer.get? field.key).map (mergeEntry (table.get? field.key))) record
      after := by
  have hascending := ascending_mergeEntries hencodes.ascending layer
  have hread := follows_of_record_table h hascending hok hfield
  rw [get?_mergeEntries hlayer] at hread
  cases hvalue : layer.get? field.key with
  | some value =>
    rw [hvalue] at hread
    exact hread
  | none =>
    rw [hvalue, Option.map_none, Option.none_or] at hread
    exact hread.unique (hencodes.follows field hfield)

/-- Over a table without tables, the values of a layer are taken as they are. -/
theorem follows_flat_merge (h : shape.Consists fields)
    (hencodes : table.Encodes shape fields record) (hflat : table.Flat) (hlayer : layer.Ascending)
    {after : ρ} (hok : FromTree.record shape (.table (mergeEntries table layer)) = .ok after)
    {field : Field Value ρ} (hfield : field ∈ fields) :
    field.Follows (layer.get? field.key) record after := by
  have hfollows := hencodes.follows_merge h hlayer hok hfield
  rw [funext (hflat.mergeEntry_eq field.key), Option.map_id'] at hfollows
  exact hfollows

end Table.Encodes

end ApiReference.Toml
