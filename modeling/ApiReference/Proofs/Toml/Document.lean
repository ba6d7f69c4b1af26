import ApiReference.Proofs.Toml.Merge
import ApiReference.Toml.Document

/-!
# The Values of Documents

A document is put together from well-formed scalars, and every step of that keeps all parts
well-formed.  So is the value that is made of them in the end.
-/

namespace ApiReference.Toml

/-- Every scalar of an item is well-formed. -/
inductive Item.WellFormed : Item → Prop where
  | scalar {value : Value} (hvalue : value.WellFormed) : WellFormed (.scalar value)
  | array {items : List Item} (hitems : ∀ item ∈ items, WellFormed item) : WellFormed (.array items)
  | table {entries : Entries} (origin : Origin)
    (hentries : ∀ entry ∈ entries, WellFormed entry.2) : WellFormed (.table origin entries)
  | tables {tables : List Entries}
    (htables : ∀ entries ∈ tables, ∀ entry ∈ entries, WellFormed entry.2) :
    WellFormed (.tables tables)

/-! ## Adding to entries -/

namespace Entries

/-- Every scalar of the entries is well-formed. -/
def WellFormed (entries : Entries) : Prop :=
  ∀ entry ∈ entries, entry.2.WellFormed

/-- A change of entries keeps them well-formed. -/
def Keeps (change : Entries → Option Entries) : Prop :=
  ∀ {entries changed : Entries}, entries.WellFormed → change entries = some changed →
    changed.WellFormed

theorem WellFormed.nil : WellFormed [] := by
  intro entry hentry
  cases hentry

theorem WellFormed.append_singleton {entries : Entries} (h : entries.WellFormed) (key : String)
    {item : Item} (hitem : item.WellFormed) : WellFormed (entries ++ [(key, item)]) :=
  List.forall_mem_append.mpr ⟨h, List.forall_mem_singleton.mpr hitem⟩

theorem wellFormed_tables_append {tables : List Entries}
    (htables : ∀ entries ∈ tables, entries.WellFormed) {last : Entries} (hlast : last.WellFormed) :
    (Item.tables (tables ++ [last])).WellFormed :=
  .tables (List.forall_mem_append.mpr ⟨htables, List.forall_mem_singleton.mpr hlast⟩)

/-- A change that keeps one entry well formed keeps all entries so. -/
theorem keeps_modify? (key : String) {change : Item → Option Item}
    (hchange : ∀ {item changed}, item.WellFormed → change item = some changed →
      changed.WellFormed) : Keeps (modify? key change) := by
  intro entries
  induction entries with
  | nil =>
    intro changed _ h
    cases h
  | cons first rest ih =>
    intro changed hentries h
    obtain ⟨hfirst, hrest⟩ := List.forall_mem_cons.mp hentries
    unfold modify? at h
    split at h
    · obtain ⟨item, hitem, rfl⟩ := Option.map_eq_some_iff.mp h
      exact List.forall_mem_cons.mpr ⟨hchange hfirst hitem, hrest⟩
    · obtain ⟨changedRest, hchanged, rfl⟩ := Option.map_eq_some_iff.mp h
      exact List.forall_mem_cons.mpr ⟨hfirst, ih hrest hchanged⟩

theorem keeps_inside (key : String) (fresh : Origin) {change : Entries → Option Entries}
    (hchange : Keeps change) (admits : Origin → Bool) (admitsList : Bool) :
    Keeps (inside key fresh change admits admitsList) := by
  intro entries changed hentries h
  unfold inside at h
  split at h
  · obtain ⟨inner, hinner, rfl⟩ := Option.map_eq_some_iff.mp h
    exact hentries.append_singleton key (.table fresh (hchange .nil hinner))
  · refine keeps_modify? key (fun {item changed} hitem hitemChanged ↦ ?_) hentries h
    split at hitemChanged
    case h_1 origin inner =>
      split at hitemChanged
      · obtain ⟨innerChanged, hinner, rfl⟩ := Option.map_eq_some_iff.mp hitemChanged
        cases hitem with
        | table _ hentries => exact .table origin (hchange hentries hinner)
      · cases hitemChanged
    case h_2 tables =>
      cases hitem with
      | tables htables =>
        split at hitemChanged
        case isTrue =>
          split at hitemChanged
          case h_1 last hlast =>
            obtain ⟨inner, hinner, rfl⟩ := Option.map_eq_some_iff.mp hitemChanged
            exact wellFormed_tables_append
              (fun entries hmem ↦ htables entries (List.dropLast_subset tables hmem))
              (hchange (htables last (List.mem_of_getLast? hlast)) hinner)
          case h_2 => cases hitemChanged
        case isFalse => cases hitemChanged
    case h_3 => cases hitemChanged

theorem keeps_addPair (key : String) {item : Item} (hitem : item.WellFormed)
    (path : List String) : Keeps (addPair key item path) := by
  induction path with
  | nil =>
    intro entries changed hentries h
    unfold addPair at h
    split at h
    · cases h
    · cases h
      exact hentries.append_singleton key hitem
  | cons step path ih =>
    intro entries changed hentries h
    exact keeps_inside step .dotted ih _ _ hentries h

/-- Changes that are made one after the other keep what each of them keeps. -/
theorem keeps_foldlM {α : Type} {add : Entries → α → Option Entries} {parts : List α}
    (hadd : ∀ part ∈ parts, Keeps fun entries ↦ add entries part) :
    Keeps fun entries ↦ parts.foldlM add entries := by
  induction parts with
  | nil =>
    intro entries changed hentries h
    cases h
    exact hentries
  | cons part parts ih =>
    intro entries changed hentries h
    obtain ⟨hpart, hparts⟩ := List.forall_mem_cons.mp hadd
    obtain ⟨first, hfirst, hrest⟩ := Option.bind_eq_some_iff.mp h
    exact ih hparts (hpart hentries hfirst) hrest

theorem keeps_addPairs {pairs : List Pair} (hpairs : ∀ pair ∈ pairs, pair.item.WellFormed) :
    Keeps fun entries ↦ addPairs entries pairs :=
  keeps_foldlM fun pair hpair ↦ keeps_addPair pair.key (hpairs pair hpair) pair.path

theorem keeps_atHeader {change : Entries → Option Entries} (hchange : Keeps change)
    (path : List String) : Keeps (atHeader change path) := by
  induction path with
  | nil => exact hchange
  | cons step path ih =>
    intro entries changed hentries h
    exact keeps_inside step .implied ih _ _ hentries h

theorem keeps_addTable (key : String) {pairs : List Pair}
    (hpairs : ∀ pair ∈ pairs, pair.item.WellFormed) : Keeps (addTable key pairs) := by
  intro entries changed hentries h
  unfold addTable at h
  split at h
  case h_1 =>
    obtain ⟨inner, hinner, rfl⟩ := Option.map_eq_some_iff.mp h
    exact hentries.append_singleton key (.table .header (keeps_addPairs hpairs .nil hinner))
  case h_2 implied hfound =>
    obtain ⟨inner, hinner, rfl⟩ := Option.map_eq_some_iff.mp h
    have hkept : WellFormed (entries.filter fun entry ↦ entry.1 != key) :=
      fun entry hentry ↦ hentries entry (List.mem_of_mem_filter hentry)
    cases hentries _ (Table.mem_of_get? hfound) with
    | table _ himplied =>
      exact hkept.append_singleton key (.table .header (keeps_addPairs hpairs himplied hinner))
  case h_3 => cases h

theorem keeps_addRepeated (key : String) {pairs : List Pair}
    (hpairs : ∀ pair ∈ pairs, pair.item.WellFormed) : Keeps (addRepeated key pairs) := by
  intro entries changed hentries h
  obtain ⟨inner, hinner, h⟩ := Option.bind_eq_some_iff.mp h
  have hinner : inner.WellFormed := keeps_addPairs hpairs .nil hinner
  split at h
  case h_1 =>
    cases h
    exact hentries.append_singleton key (.tables (List.forall_mem_singleton.mpr hinner))
  case h_2 =>
    refine keeps_modify? key (fun {item changed} hitem hitemChanged ↦ ?_) hentries h
    split at hitemChanged
    · cases hitemChanged
      cases hitem with
      | tables htables => exact wellFormed_tables_append htables hinner
    · cases hitemChanged

theorem keeps_addSection {part : Section} (hpart : ∀ pair ∈ part.pairs, pair.item.WellFormed) :
    Keeps fun entries ↦ addSection entries part := by
  intro entries changed hentries h
  unfold addSection at h
  split at h
  · exact keeps_addPairs hpart hentries h
  · split at h
    · exact keeps_atHeader (keeps_addRepeated _ hpart) _ hentries h
    · exact keeps_atHeader (keeps_addTable _ hpart) _ hentries h

/-- A document whose parts are well formed is so as a whole. -/
theorem wellFormed_ofSections {sections : List Section}
    (hsections : ∀ part ∈ sections, ∀ pair ∈ part.pairs, pair.item.WellFormed) {entries : Entries}
    (h : ofSections sections = some entries) : entries.WellFormed :=
  keeps_foldlM (fun part hpart ↦ keeps_addSection (hsections part hpart)) .nil h

end Entries

/-! ## Values of items -/

/-- The value of an item is well-formed, if it has one. -/
def Item.Valued (item : Item) : Prop :=
  ∀ {value : Value}, item.toValue? = some value → value.WellFormed

theorem wellFormed_itemValues? {items : List Item} (h : ∀ item ∈ items, item.Valued)
    {values : List Value} (hvalues : itemValues? items = some values) :
    ∀ value ∈ values, value.WellFormed := by
  induction items generalizing values with
  | nil =>
    rw [itemValues?] at hvalues
    cases hvalues
    simp
  | cons item rest ih =>
    obtain ⟨hitem, hrest⟩ := List.forall_mem_cons.mp h
    rw [itemValues?] at hvalues
    obtain ⟨value, hvalue, hvalues⟩ := Option.bind_eq_some_iff.mp hvalues
    obtain ⟨restValues, hrestValues, hvalues⟩ := Option.bind_eq_some_iff.mp hvalues
    cases hvalues
    exact List.forall_mem_cons.mpr ⟨hitem hvalue, ih hrest hrestValues⟩

theorem wellFormed_entryValues? {entries : Entries} (h : ∀ entry ∈ entries, entry.2.Valued)
    {table : Table Value} (htable : entryValues? entries = some table) :
    (Value.table table).WellFormed := by
  induction entries generalizing table with
  | nil =>
    rw [entryValues?] at htable
    cases htable
    exact .table List.Pairwise.nil (by simp)
  | cons entry rest ih =>
    obtain ⟨hentry, hrest⟩ := List.forall_mem_cons.mp h
    rw [entryValues?] at htable
    obtain ⟨value, hvalue, htable⟩ := Option.bind_eq_some_iff.mp htable
    obtain ⟨restTable, hrestTable, htable⟩ := Option.bind_eq_some_iff.mp htable
    cases htable
    exact (ih hrest hrestTable).insert entry.1 (hentry hvalue)

/-- The value of a table is well formed if those of its entries are. -/
theorem wellFormed_tableValue? {entries : Entries} (h : ∀ entry ∈ entries, entry.2.Valued)
    {value : Value} (hvalue : tableValue? entries = some value) : value.WellFormed := by
  cases entries with
  | nil =>
    rw [tableValue?] at hvalue
    cases hvalue
    exact .table List.Pairwise.nil (by simp)
  | cons entry rest =>
    obtain ⟨hentry, hrest⟩ := List.forall_mem_cons.mp h
    unfold tableValue? at hvalue
    split at hvalue
    · split at hvalue
      · obtain ⟨moment, -, rfl⟩ := Option.map_eq_some_iff.mp hvalue
        exact .datetime moment
      · cases hvalue
    · obtain ⟨first, hfirst, hvalue⟩ := Option.bind_eq_some_iff.mp hvalue
      obtain ⟨table, htable, hvalue⟩ := Option.bind_eq_some_iff.mp hvalue
      cases hvalue
      exact (wellFormed_entryValues? hrest htable).insert entry.1 (hentry hfirst)

theorem wellFormed_tableValues? {tables : List Entries}
    (h : ∀ entries ∈ tables, ∀ entry ∈ entries, entry.2.Valued) {values : List Value}
    (hvalues : tableValues? tables = some values) : ∀ value ∈ values, value.WellFormed := by
  induction tables generalizing values with
  | nil =>
    rw [tableValues?] at hvalues
    cases hvalues
    simp
  | cons entries rest ih =>
    obtain ⟨hentries, hrest⟩ := List.forall_mem_cons.mp h
    rw [tableValues?] at hvalues
    obtain ⟨value, hvalue, hvalues⟩ := Option.bind_eq_some_iff.mp hvalues
    obtain ⟨restValues, hrestValues, hvalues⟩ := Option.bind_eq_some_iff.mp hvalues
    cases hvalues
    exact List.forall_mem_cons.mpr
      ⟨wellFormed_tableValue? hentries hvalue, ih hrest hrestValues⟩

theorem Item.WellFormed.valued {item : Item} (h : item.WellFormed) : item.Valued := by
  induction h with
  | scalar hvalue =>
    intro value h
    rw [Item.toValue?] at h
    cases h
    exact hvalue
  | array _ ih =>
    intro value h
    rw [Item.toValue?] at h
    obtain ⟨values, hvalues, rfl⟩ := Option.map_eq_some_iff.mp h
    exact .array (wellFormed_itemValues? ih hvalues)
  | table origin _ ih =>
    intro value h
    rw [Item.toValue?] at h
    exact wellFormed_tableValue? ih h
  | tables _ ih =>
    intro value h
    rw [Item.toValue?] at h
    obtain ⟨values, hvalues, rfl⟩ := Option.map_eq_some_iff.mp h
    exact .array (wellFormed_tableValues? ih hvalues)

end ApiReference.Toml
