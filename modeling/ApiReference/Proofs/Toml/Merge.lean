import ApiReference.Decimal.Word
import ApiReference.Proofs.Toml.Table

/-!
# Merging

Every key of a merged table has the merged value of that key.  Merging keeps values well-formed:
the keys of all their tables ascend, and their integers fit 64 bits with a sign.
-/

namespace ApiReference.Toml

open Decimal

/-! ## Merging tables -/

theorem Value.merge_table (entries layer : List (String × Value)) :
    (Value.table entries).merge (.table layer) = .table (mergeEntries entries layer) := by
  rw [Value.merge]

/-- A layer that is no table replaces what is below it. -/
theorem Value.merge_of_not_table {layer : Value} (h : ∀ entries, layer ≠ .table entries)
    (base : Value) : base.merge layer = layer := by
  cases layer with
  | table layer => exact absurd rfl (h layer)
  | _ => rw [Value.merge]

theorem Value.merge_of_base_not_table {base : Value} (h : ∀ entries, base ≠ .table entries)
    (layer : Value) : base.merge layer = layer := by
  cases layer with
  | table layer =>
    rw [Value.merge]
    exact h
  | _ => rw [Value.merge]

/-- Under a key the layer decides, and what it does not name stays. -/
theorem get?_mergeEntries {layer : List (String × Value)} (hlayer : Table.Ascending layer)
    (base : Table Value) (key : String) : (mergeEntries base layer).get? key =
      ((Table.get? layer key).map (mergeEntry (base.get? key))).or (base.get? key) := by
  induction layer generalizing base with
  | nil => rw [mergeEntries, Table.get?_nil, Option.map_none, Option.none_or]
  | cons entry rest ih =>
    obtain ⟨name, value⟩ := entry
    obtain ⟨hfirst, hrest⟩ := List.pairwise_cons.mp hlayer
    rw [mergeEntries, ih hrest, Table.get?_insert, Table.get?_cons]
    by_cases hkey : key = name
    · have habsent : Table.get? rest key = none :=
        Table.get?_eq_none_of_lt fun other hother ↦ hkey ▸ hfirst other hother
      rw [if_pos hkey, if_pos hkey, habsent, hkey, Option.map_none, Option.none_or,
        Option.map_some, Option.some_or]
    · rw [if_neg hkey, if_neg hkey]

/-- Keys stay in order when a layer is merged. -/
theorem ascending_mergeEntries {base : Table Value} (hbase : base.Ascending)
    (layer : List (String × Value)) : Table.Ascending (mergeEntries base layer) := by
  induction layer generalizing base with
  | nil =>
    rw [mergeEntries]
    exact hbase
  | cons entry rest ih =>
    rw [mergeEntries]
    exact ih (Table.ascending_insert hbase ..)

/-! ## Well-formed values -/

/-- The keys of every table ascend, and every integer fits 64 bits with a sign. -/
inductive Value.WellFormed : Value → Prop where
  | text (value : String) : WellFormed (.text value)
  | integer {value : Int} (hvalue : value < Word.signedLimit) : WellFormed (.integer value)
  | double (value : Double) : WellFormed (.double value)
  | flag (value : Bool) : WellFormed (.flag value)
  | datetime (value : Datetime) : WellFormed (.datetime value)
  | array {items : List Value} (hitems : ∀ item ∈ items, WellFormed item) :
    WellFormed (.array items)
  | table {entries : Table Value} (hascending : entries.Ascending)
    (hentries : ∀ entry ∈ entries, WellFormed entry.2) : WellFormed (.table entries)

namespace Value.WellFormed

theorem ascending {entries : Table Value} (h : (Value.table entries).WellFormed) :
    entries.Ascending := by
  cases h with
  | table hascending _ => exact hascending

theorem of_get? {entries : Table Value} (h : (Value.table entries).WellFormed) {key : String}
    {value : Value} (hget : entries.get? key = some value) : value.WellFormed := by
  cases h with
  | table _ hentries => exact hentries _ (Table.mem_of_get? hget)

theorem ofEntries {entries : List (String × Value)} (h : ∀ entry ∈ entries, entry.2.WellFormed) :
    (Value.table (Table.ofEntries entries)).WellFormed :=
  .table (Table.ascending_ofEntries entries) fun entry hentry ↦
    h entry (Table.mem_of_mem_ofEntries hentry)

theorem insert {table : Table Value} (h : (Value.table table).WellFormed) (key : String)
    {value : Value} (hvalue : value.WellFormed) :
    (Value.table (table.insert key value)).WellFormed := by
  cases h with
  | table hascending hentries =>
    refine .table (Table.ascending_insert hascending key value) fun entry hentry ↦ ?_
    rcases Table.mem_insert hentry with rfl | hentry
    · exact hvalue
    · exact hentries entry hentry

theorem merge {base layer : Value} (hbase : base.WellFormed) (hlayer : layer.WellFormed) :
    (base.merge layer).WellFormed := by
  induction hlayer generalizing base with
  | @table layer hlayer hvalues ih =>
    cases base with
    | table entries =>
      have hascending := ascending_mergeEntries hbase.ascending layer
      rw [merge_table]
      refine .table hascending fun entry hentry ↦ ?_
      have hget := Table.get?_of_mem hascending hentry
      rw [get?_mergeEntries hlayer, Option.or_eq_some_iff] at hget
      rcases hget with hget | ⟨-, hget⟩
      · obtain ⟨value, hvalue, hmerged⟩ := Option.map_eq_some_iff.mp hget
        have hmem := Table.mem_of_get? hvalue
        rw [← hmerged]
        cases hbefore : Table.get? entries entry.1 with
        | none =>
          rw [mergeEntry]
          exact hvalues _ hmem
        | some before =>
          rw [mergeEntry]
          exact ih _ hmem (hbase.of_get? hbefore)
      · exact hbase.of_get? hget
    | _ =>
      rw [merge_of_base_not_table (by simp)]
      exact .table hlayer hvalues
  | _ =>
    rw [merge_of_not_table (by simp)]
    constructor <;> assumption

end Value.WellFormed

end ApiReference.Toml
