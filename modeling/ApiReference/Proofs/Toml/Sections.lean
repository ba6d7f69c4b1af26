import ApiReference.Proofs.Toml.Printing
import ApiReference.Proofs.Toml.Table

/-!
# Sections Put Together

Under a header of its own a block becomes a table, and under a repeated header one more table of a
list.  The value of a table whose keys differ is the table of the values.
-/

namespace ApiReference.Toml

/-! ## Entries -/

namespace Entries

/-- The entries that pairs without a path make. -/
def ofPairs (pairs : List (String × Plain)) : Entries :=
  pairs.map fun pair ↦ (pair.1, pair.2.item)

theorem lookup_eq_none {entries : Entries} {key : String} (h : key ∉ entries.map Prod.fst) :
    entries.lookup key = none := by
  refine List.lookup_eq_none_iff.mpr fun entry hentry ↦ ?_
  rw [bne_iff_ne]
  exact fun heq ↦ h (heq ▸ List.mem_map_of_mem hentry)

theorem addPairs_toPair {pairs : List (String × Plain)} {entries : Entries}
    (h : (entries.map Prod.fst ++ pairs.map Prod.fst).Nodup) :
    addPairs entries (pairs.map toPair) = some (entries ++ ofPairs pairs) := by
  induction pairs generalizing entries with
  | nil => exact congrArg some (List.append_nil entries).symm
  | cons pair pairs ih =>
    have habsent : entries.lookup pair.1 = none := by
      refine lookup_eq_none fun hmem ↦ ?_
      exact (List.nodup_append.mp h).2.2 pair.1 hmem pair.1 List.mem_cons_self rfl
    have hadd : addPair pair.1 pair.2.item [] entries =
        some (entries ++ [(pair.1, pair.2.item)]) := by
      rw [addPair, habsent]
      rfl
    have hrest := @ih (entries ++ [(pair.1, pair.2.item)]) (by simpa using h)
    rw [addPairs] at hrest ⊢
    rw [List.map_cons, List.foldlM_cons]
    show (addPair pair.1 pair.2.item [] entries).bind _ = _
    rw [hadd, Option.bind_some, hrest, List.append_assoc]
    rfl

theorem modify?_append {before : Entries} {key : String} (h : key ∉ before.map Prod.fst)
    {change : Item → Option Item} {item changed : Item} (hchange : change item = some changed)
    (after : Entries) :
    modify? key change (before ++ (key, item) :: after) =
      some (before ++ (key, changed) :: after) := by
  induction before with
  | nil => rw [List.nil_append, modify?, if_pos rfl, hchange]; rfl
  | cons entry before ih =>
    obtain ⟨hhead, hrest⟩ := not_or.mp (mt List.mem_cons.mpr h)
    rw [List.cons_append, modify?, if_neg (Ne.symm hhead), ih hrest]
    rfl

theorem lookup_append {before : Entries} {key : String} (h : key ∉ before.map Prod.fst)
    (item : Item) (after : Entries) :
    (before ++ (key, item) :: after).lookup key = some item := by
  rw [List.lookup_append, lookup_eq_none h, List.lookup_cons_self]
  rfl

/-- A header of its own puts its table at the end. -/
theorem addSection_header {key : String} {pairs : List (String × Plain)}
    (hpairs : (pairs.map Prod.fst).Nodup) {entries : Entries} (h : key ∉ entries.map Prod.fst) :
    addSection entries (Block.toSection ⟨[key], false, pairs⟩) =
      some (entries ++ [(key, .table .header (ofPairs pairs))]) := by
  have hadd : addPairs [] (pairs.map toPair) = some (ofPairs pairs) := addPairs_toPair hpairs
  have htable : addTable key (pairs.map toPair) entries =
      some (entries ++ [(key, .table .header (ofPairs pairs))]) := by
    rw [addTable, lookup_eq_none h]
    simp only [hadd, Option.map_some]
  exact htable

/-- The entries in which a table is followed by a list of tables, if there are any. -/
def withTables (inner : Entries) (key : String) (tables : List Entries) : Entries :=
  if tables.isEmpty then inner else inner ++ [(key, .tables tables)]

theorem addRepeated_withTables {inner : Entries} {key : String} (h : key ∉ inner.map Prod.fst)
    (tables : List Entries) {pairs : List (String × Plain)}
    (hpairs : (pairs.map Prod.fst).Nodup) :
    addRepeated key (pairs.map toPair) (withTables inner key tables) =
      some (withTables inner key (tables ++ [ofPairs pairs])) := by
  have hadd : addPairs [] (pairs.map toPair) = some (ofPairs pairs) := addPairs_toPair hpairs
  unfold withTables
  rw [addRepeated, hadd]
  cases tables with
  | nil => simp [lookup_eq_none h]
  | cons table tables =>
    simp only [List.isEmpty_cons, Option.bind_eq_bind, Option.bind_some, Bool.false_eq_true,
      if_false, lookup_append h, List.cons_append]
    refine modify?_append h ?_ []
    rfl

/-- A repeated header adds to the list in a table that has a header of its own. -/
theorem addSection_repeated {before inner : Entries} {outer key : String}
    (houter : outer ∉ before.map Prod.fst) (hkey : key ∉ inner.map Prod.fst)
    (tables : List Entries) {pairs : List (String × Plain)}
    (hpairs : (pairs.map Prod.fst).Nodup) :
    addSection (before ++ [(outer, .table .header (withTables inner key tables))])
        (Block.toSection ⟨[outer, key], true, pairs⟩) =
      some (before ++
        [(outer, .table .header (withTables inner key (tables ++ [ofPairs pairs])))]) := by
  have hadd := addRepeated_withTables hkey tables hpairs
  show inside outer .implied (addRepeated key (pairs.map toPair)) (· != .braces) true _ = _
  rw [inside, lookup_append houter]
  refine modify?_append houter ?_ []
  show (addRepeated key (pairs.map toPair) (withTables inner key tables)).map
    (Item.table .header) = _
  rw [hadd]
  rfl

theorem foldlM_addSection_repeated {before inner : Entries} {outer key : String}
    (houter : outer ∉ before.map Prod.fst) {blocks : List (List (String × Plain))}
    (hkey : blocks ≠ [] → key ∉ inner.map Prod.fst)
    (hblocks : ∀ pairs ∈ blocks, (pairs.map Prod.fst).Nodup) (tables : List Entries) :
    (blocks.map fun pairs ↦ Block.toSection ⟨[outer, key], true, pairs⟩).foldlM addSection
        (before ++ [(outer, .table .header (withTables inner key tables))]) =
      some (before ++
        [(outer, .table .header (withTables inner key (tables ++ blocks.map ofPairs)))]) := by
  -- tables are added at the end of the list, so what is in it before may be any
  induction blocks generalizing tables with
  | nil => simp
  | cons pairs blocks ih =>
    obtain ⟨hpairs, hrest⟩ := List.forall_mem_cons.mp hblocks
    have habsent := hkey (by simp)
    have hadd := addSection_repeated houter habsent tables hpairs
    rw [List.map_cons, List.foldlM_cons, hadd]
    refine (ih (fun _ ↦ habsent) hrest (tables ++ [ofPairs pairs])).trans ?_
    rw [List.append_assoc, List.singleton_append, List.map_cons]

end Entries

/-! ## Values -/

/-- The value that a printed value is read as. -/
def Plain.toValue : Plain → Value
  | .text value => .text value
  | .integer value => .integer value
  | .flag value => .flag value
  | .emptyArray => .array []

theorem toValue?_item (plain : Plain) : plain.item.toValue? = some plain.toValue := by
  cases plain <;> simp [Plain.item, Plain.toValue, Item.toValue?, itemValues?]

theorem insert_ofEntries {α : Type} {entries : List (String × α)} {key : String}
    (h : (key :: entries.map Prod.fst).Nodup) (value : α) :
    (Table.ofEntries entries).insert key value = Table.ofEntries ((key, value) :: entries) := by
  have hentries : (entries.map Prod.fst).Nodup := (List.nodup_cons.mp h).2
  have hall : (((key, value) :: entries).map Prod.fst).Nodup := h
  refine (Table.ascending_insert (Table.ascending_ofEntries entries) key value).ext
    (Table.ascending_ofEntries _) fun other ↦ ?_
  rw [Table.get?_insert, Table.get?_ofEntries hentries, Table.get?_ofEntries hall]
  exact (Table.get?_cons (key, value) entries other).symm

/-- An entry has a value under its key. -/
def Holds (entry : String × Item) (value : String × Value) : Prop :=
  entry.1 = value.1 ∧ entry.2.toValue? = some value.2

theorem entryValues?_eq {entries : Entries} {values : List (String × Value)}
    (h : List.Forall₂ Holds entries values) (hdistinct : (values.map Prod.fst).Nodup) :
    entryValues? entries = some (Table.ofEntries values) := by
  induction h with
  | nil => rw [entryValues?]; rfl
  | @cons entry value entries values hentry _ ih =>
    rw [entryValues?, hentry.2, ih (List.nodup_cons.mp hdistinct).2, hentry.1]
    exact congrArg some (insert_ofEntries hdistinct value.2)

theorem tableValue?_eq {entries : Entries} {values : List (String × Value)}
    (h : List.Forall₂ Holds entries values) (hdistinct : (values.map Prod.fst).Nodup)
    (hfirst : ∀ entry ∈ entries.head?, entry.1 ≠ datetimeKey) :
    tableValue? entries = some (.table (Table.ofEntries values)) := by
  cases h with
  | nil => rw [tableValue?]; rfl
  | @cons entry value entries values hentry hrest =>
    have hkey := hfirst entry rfl
    unfold tableValue?
    rw [if_neg hkey, hentry.2, entryValues?_eq hrest (List.nodup_cons.mp hdistinct).2, hentry.1]
    exact congrArg (fun table ↦ some (Value.table table)) (insert_ofEntries hdistinct value.2)

theorem holds_ofPairs (pairs : List (String × Plain)) : List.Forall₂ Holds (Entries.ofPairs pairs)
    (pairs.map fun pair ↦ (pair.1, pair.2.toValue)) :=
  Text.forall₂_map_map fun pair _ ↦ ⟨rfl, toValue?_item pair.2⟩

theorem tableValue?_ofPairs {pairs : List (String × Plain)} (h : (pairs.map Prod.fst).Nodup)
    (hfirst : ∀ pair ∈ pairs.head?, pair.1 ≠ datetimeKey) :
    tableValue? (Entries.ofPairs pairs) =
      some (.table (Table.ofEntries (pairs.map fun pair ↦ (pair.1, pair.2.toValue)))) := by
  refine tableValue?_eq (holds_ofPairs pairs) (by rwa [List.map_map]) fun entry hentry ↦ ?_
  rw [Entries.ofPairs, List.head?_map] at hentry
  obtain ⟨pair, hpair, rfl⟩ := Option.map_eq_some_iff.mp hentry
  exact hfirst pair hpair

end ApiReference.Toml
