import ApiReference.Proofs.Toml.Merge

/-!
# Combining Layers

Merging a layer once more changes nothing.  Two layers may be combined before they are merged into a
value, unless the lower one puts something else in the place of a table where the upper one has a
table again: merged one after the other they forget what the table held, and combined they keep it.
-/

namespace ApiReference.Toml

/-! ## Merged tables by key -/

def Table.keys {α : Type} (table : Table α) : List String :=
  table.map Prod.fst

theorem Table.mem_keys_iff {α : Type} {table : Table α} {key : String} :
    key ∈ table.keys ↔ (table.get? key).isSome = true := by
  simp [keys, get?, List.lookup_isSome_iff]

/-- A merged table holds under every key the merge of the two values, or the only one there is. -/
theorem get?_mergeEntries_eq_merge {layer : List (String × Value)}
    (hlayer : Table.Ascending layer) (base : Table Value) (key : String) :
    (mergeEntries base layer).get? key =
      (base.get? key).merge Value.merge (Table.get? layer key) := by
  rw [get?_mergeEntries hlayer]
  cases base.get? key <;> cases Table.get? layer key <;> simp [mergeEntry]

/-- A merged table has the keys of both. -/
theorem mem_keys_mergeEntries {layer : List (String × Value)} (hlayer : Table.Ascending layer)
    (base : Table Value) (key : String) :
    key ∈ (mergeEntries base layer).keys ↔ key ∈ base.keys ∨ key ∈ Table.keys layer := by
  simp only [Table.mem_keys_iff, get?_mergeEntries_eq_merge hlayer, Option.isSome_merge,
    Bool.or_eq_true]

/-- Two ways to merge three tables come to the same exactly if they do so for the values of every
key that all three have. -/
theorem mergeEntries_mergeEntries_eq_iff {base lower upper : Table Value}
    (hbase : base.Ascending) (hlower : lower.Ascending) (hupper : upper.Ascending) :
    mergeEntries (mergeEntries base lower) upper = mergeEntries base (mergeEntries lower upper) ↔
      ∀ key x y z, base.get? key = some x → lower.get? key = some y → upper.get? key = some z →
        (x.merge y).merge z = x.merge (y.merge z) := by
  have hcombined := ascending_mergeEntries hlower upper
  constructor
  · intro hsame key x y z hx hy hz
    have hget := congrArg (Table.get? · key) hsame
    rw [get?_mergeEntries_eq_merge hupper, get?_mergeEntries_eq_merge hlower,
      get?_mergeEntries_eq_merge hcombined, get?_mergeEntries_eq_merge hupper, hx, hy, hz] at hget
    exact Option.some.inj hget
  · intro hsame
    refine (ascending_mergeEntries (ascending_mergeEntries hbase lower) upper).ext
      (ascending_mergeEntries hbase _) fun key ↦ ?_
    rw [get?_mergeEntries_eq_merge hupper, get?_mergeEntries_eq_merge hlower,
      get?_mergeEntries_eq_merge hcombined, get?_mergeEntries_eq_merge hupper]
    cases hx : base.get? key with
    | none => rw [Option.merge_none_left, Option.merge_none_left]
    | some x =>
      cases hy : lower.get? key with
      | none => rw [Option.merge_none_right, Option.merge_none_left]
      | some y =>
        cases hz : upper.get? key with
        | none => rw [Option.merge_none_right, Option.merge_none_right]
        | some z => exact congrArg some (hsame key x y z hx hy hz)

namespace Value

/-! ## Values at paths -/

def IsTable (value : Value) : Prop :=
  ∃ entries, value = .table entries

/-- The value of a key, if the value is a table. -/
def inner? (value : Value) (key : String) : Option Value :=
  match value with
  | .table entries => Table.get? entries key
  | _ => none

/-- The value to which a path of keys leads through tables. -/
def at? (value : Value) (path : List String) : Option Value :=
  path.foldlM inner? value

theorem at?_cons (value : Value) (key : String) (path : List String) :
    value.at? (key :: path) = (value.inner? key).bind fun inner ↦ inner.at? path :=
  List.foldlM_cons

/-- Only a table has something below it. -/
theorem inner?_of_not_isTable {value : Value} (h : ¬value.IsTable) (key : String) :
    value.inner? key = none := by
  cases value with
  | table entries => exact absurd ⟨entries, rfl⟩ h
  | _ => rfl

/-- Only the empty path leads anywhere in a value that is no table. -/
theorem at?_of_not_isTable {value : Value} (h : ¬value.IsTable) {path : List String}
    {found : Value} (hfound : value.at? path = some found) : path = [] ∧ found = value := by
  cases path with
  | nil => exact ⟨rfl, (Option.some.inj hfound).symm⟩
  | cons key path =>
    rw [at?_cons, inner?_of_not_isTable h] at hfound
    cases hfound

/-- A path that leads anywhere in a table of one entry begins with the key of that entry. -/
theorem eq_of_at?_singleton {key name : String} {value found : Value} {path : List String}
    (h : (table [(key, value)]).at? (name :: path) = some found) :
    name = key ∧ value.at? path = some found := by
  rw [at?_cons] at h
  obtain ⟨inner, hinner, hfound⟩ := Option.bind_eq_some_iff.mp h
  obtain ⟨rfl, rfl⟩ := Prod.mk.inj (List.mem_singleton.mp (Table.mem_of_get? hinner))
  exact ⟨rfl, hfound⟩

/-! ## Layers that may be combined -/

/-- Wherever all three have a value and that of the lower layer is no table, nothing of the base's
value would show beside that of the upper layer. -/
def Combines (base lower upper : Value) : Prop :=
  ∀ path x y z, base.at? path = some x → lower.at? path = some y → upper.at? path = some z →
    ¬y.IsTable → x.merge z = z

variable {base lower upper : Value}

theorem merge_of_not_isTable (h : ¬upper.IsTable) (base : Value) : base.merge upper = upper :=
  merge_of_not_table (not_exists.mp h) base

theorem merge_of_base_not_isTable (h : ¬base.IsTable) (upper : Value) : base.merge upper = upper :=
  merge_of_base_not_table (not_exists.mp h) upper

/-- A value that is no table replaces all that is below it. -/
theorem merge_merge_of_upper_not_isTable (h : ¬upper.IsTable) :
    (base.merge lower).merge upper = base.merge (lower.merge upper) := by
  rw [merge_of_not_isTable h, merge_of_not_isTable h, merge_of_not_isTable h]

theorem combines_of_upper_not_isTable (h : ¬upper.IsTable) : Combines base lower upper := by
  intro path x y z hx hy hz hlower
  obtain ⟨-, rfl⟩ := at?_of_not_isTable h hz
  exact merge_of_not_isTable h x

theorem combines_of_base_not_isTable (h : ¬base.IsTable) : Combines base lower upper := by
  intro path x y z hx hy hz hlower
  obtain ⟨-, rfl⟩ := at?_of_not_isTable h hx
  exact merge_of_base_not_isTable h z

/-- A value between them that is no table hides the base, so that the base may add nothing. -/
theorem combines_iff_of_lower_not_isTable (h : ¬lower.IsTable) :
    Combines base lower upper ↔ base.merge upper = upper := by
  constructor
  · intro hcombines
    exact hcombines [] base lower upper rfl rfl rfl h
  · intro hsame path x y z hx hy hz hlower
    obtain ⟨rfl, rfl⟩ := at?_of_not_isTable h hy
    cases hx
    cases hz
    exact hsame

theorem combines_table_iff {base lower upper : List (String × Value)} :
    Combines (.table base) (.table lower) (.table upper) ↔ ∀ key x y z,
      Table.get? base key = some x → Table.get? lower key = some y →
        Table.get? upper key = some z → Combines x y z := by
  constructor
  · intro hcombines key x y z hx hy hz path x' y' z' hx' hy' hz'
    refine hcombines (key :: path) x' y' z' ?_ ?_ ?_
    · rwa [at?_cons, inner?, hx]
    · rwa [at?_cons, inner?, hy]
    · rwa [at?_cons, inner?, hz]
  · intro hcombines path x y z hx hy hz hlower
    cases path with
    | nil =>
      cases hy
      exact absurd ⟨lower, rfl⟩ hlower
    | cons key path =>
      rw [at?_cons] at hx hy hz
      obtain ⟨x', hx', hx⟩ := Option.bind_eq_some_iff.mp hx
      obtain ⟨y', hy', hy⟩ := Option.bind_eq_some_iff.mp hy
      obtain ⟨z', hz', hz⟩ := Option.bind_eq_some_iff.mp hz
      exact hcombines key x' y' z' hx' hy' hz' path x y z hx hy hz hlower

/-- Merging two layers one after the other is the same as merging the two combined, exactly if they
may be combined. -/
theorem merge_merge_eq_iff (hbase : base.WellFormed) (hlower : lower.WellFormed)
    (hupper : upper.WellFormed) :
    (base.merge lower).merge upper = base.merge (lower.merge upper) ↔
      Combines base lower upper := by
  induction hupper generalizing base lower with
  | @table upper hascending hvalues ih =>
    by_cases hlowerTable : lower.IsTable
    case neg =>
      rw [combines_iff_of_lower_not_isTable hlowerTable, merge_of_not_isTable hlowerTable,
        merge_of_base_not_isTable hlowerTable]
      exact eq_comm
    obtain ⟨lower, rfl⟩ := hlowerTable
    by_cases hbaseTable : base.IsTable
    case neg =>
      refine iff_of_true ?_ (combines_of_base_not_isTable hbaseTable)
      rw [merge_of_base_not_isTable hbaseTable, merge_of_base_not_isTable hbaseTable]
    obtain ⟨base, rfl⟩ := hbaseTable
    simp only [merge_table, table.injEq]
    rw [mergeEntries_mergeEntries_eq_iff hbase.ascending hlower.ascending hascending,
      combines_table_iff]
    refine forall₄_congr fun key x y z ↦ forall₃_congr fun hx hy hz ↦ ?_
    exact ih _ (Table.mem_of_get? hz) (hbase.of_get? hx) (hlower.of_get? hy)
  | _ =>
    exact iff_of_true (merge_merge_of_upper_not_isTable (by simp [IsTable]))
      (combines_of_upper_not_isTable (by simp [IsTable]))

/-- Merged one after the other, the layers forget what the table held. -/
example :
    let base := table [("server", .table [("request_timeout_ms", .integer 5)])]
    let lower := table [("server", .array [])]
    let upper := table [("server", .table [("shutdown_timeout_secs", .integer 30)])]
    (base.merge lower).merge upper = upper ∧
      base.merge (lower.merge upper) = .table [("server",
        .table [("request_timeout_ms", .integer 5), ("shutdown_timeout_secs", .integer 30)])] :=
  ⟨by cbv, by cbv⟩

/-! ## Laws of merging -/

/-- At some path the base and the upper layer have tables, and the lower layer something else. -/
def Separates (base lower upper : Value) : Prop :=
  ∃ path x y z, base.at? path = some x ∧ lower.at? path = some y ∧ upper.at? path = some z ∧
    x.IsTable ∧ ¬y.IsTable ∧ z.IsTable

/-- Layers combine where nothing between them keeps two tables apart. -/
theorem combines_of_not_separates (h : ¬Separates base lower upper) :
    Combines base lower upper := by
  intro path x y z hx hy hz hlower
  by_cases hbaseTable : x.IsTable
  · refine merge_of_not_isTable (fun hupperTable ↦ h ?_) x
    exact ⟨path, x, y, z, hx, hy, hz, hbaseTable, hlower, hupperTable⟩
  · exact merge_of_base_not_isTable hbaseTable z

theorem merge_self {value : Value} (h : value.WellFormed) : value.merge value = value := by
  induction h with
  | @table entries hascending hvalues ih =>
    rw [merge_table]
    refine congrArg Value.table ((ascending_mergeEntries hascending entries).ext hascending ?_)
    intro key
    rw [get?_mergeEntries_eq_merge hascending]
    cases hinner : Table.get? entries key with
    | none => rfl
    | some inner => exact congrArg some (ih _ (Table.mem_of_get? hinner))
  | _ => exact merge_of_not_table (by simp) _

/-- A layer may be combined with itself. -/
theorem combines_self (base layer : Value) : Combines base layer layer := by
  intro path x y z hx hy hz hlayer
  rw [hy] at hz
  cases hz
  exact merge_of_not_isTable hlayer x

theorem merge_merge_self (hbase : base.WellFormed) (hlower : lower.WellFormed) :
    (base.merge lower).merge lower = base.merge lower :=
  calc
    _ = base.merge (lower.merge lower) :=
      (merge_merge_eq_iff hbase hlower hlower).mpr (combines_self base lower)
    _ = _ := by rw [merge_self hlower]

theorem merge_empty (entries : List (String × Value)) :
    (table entries).merge (.table []) = .table entries := by
  rw [merge_table, mergeEntries]

/-- Merging a layer again, a value with itself and an empty table into a table changes nothing.  A
merged table has the keys of both, each with the merge of its two values or the only one there is.
Layers that do not separate tables may be combined before they are merged. -/
theorem merge_idem_union_assoc (hbase : base.WellFormed) (hlower : lower.WellFormed)
    (hupper : upper.WellFormed) :
    (base.merge lower).merge lower = base.merge lower ∧
    lower.merge lower = lower ∧
    (base.IsTable → base.merge (.table []) = base) ∧
    (∀ entries layer, base = .table entries → lower = .table layer →
      ∃ merged, base.merge lower = .table merged ∧ Table.Ascending merged ∧
        (∀ key, key ∈ Table.keys merged ↔ key ∈ Table.keys entries ∨ key ∈ Table.keys layer) ∧
        ∀ key, Table.get? merged key =
          (Table.get? entries key).merge merge (Table.get? layer key)) ∧
    (¬Separates base lower upper →
      (base.merge lower).merge upper = base.merge (lower.merge upper)) := by
  refine ⟨merge_merge_self hbase hlower, merge_self hlower, ?_, ?_, fun hseparates ↦ ?_⟩
  · rintro ⟨entries, rfl⟩
    exact merge_empty entries
  · rintro entries layer rfl rfl
    have hlayer := hlower.ascending
    refine ⟨mergeEntries entries layer, merge_table entries layer, ?_, ?_, ?_⟩
    · exact ascending_mergeEntries hbase.ascending layer
    · exact mem_keys_mergeEntries hlayer entries
    · exact get?_mergeEntries_eq_merge hlayer entries
  · exact (merge_merge_eq_iff hbase hlower hupper).mpr (combines_of_not_separates hseparates)

/-- The lower layer has a list in the place of a table, where the upper layer has nothing. -/
theorem merge_assoc_nested :
    let base := table [("logging", .table [("level", .text "info")]),
      ("server", .table [("http_addr", .text "0.0.0.0:80")])]
    let lower := table [("logging", .array []), ("server", .table [("http_addr", .text "[::]:80")])]
    let upper := table [("server", .table [("request_timeout_ms", .integer 5)])]
    base.WellFormed ∧ lower.WellFormed ∧ upper.WellFormed ∧ base.IsTable ∧
      ¬Separates base lower upper ∧
      (base.merge lower).merge upper = base.merge (lower.merge upper) := by
  intro base lower upper
  have htext (key text : String) : (table [(key, .text text)]).WellFormed :=
    .table (List.pairwise_singleton ..) (by simpa using .text text)
  have hbase : base.WellFormed := by
    refine .table (List.pairwise_pair.mpr (by cbv)) ?_
    simp only [List.forall_mem_cons]
    exact ⟨htext .., htext .., by simp⟩
  have hlower : lower.WellFormed := by
    refine .table (List.pairwise_pair.mpr (by cbv)) ?_
    simp only [List.forall_mem_cons]
    exact ⟨.array (by simp), htext .., by simp⟩
  have hupper : upper.WellFormed := by
    refine .table (List.pairwise_singleton ..) ?_
    simp only [List.forall_mem_singleton]
    exact .table (List.pairwise_singleton ..) (by simpa using .integer (by decide))
  have hseparates : ¬Separates base lower upper := by
    rintro ⟨path, x, y, z, hx, hy, hz, -, hlowerTable, hupperTable⟩
    have hnumber : ¬(integer 5).IsTable := by simp [IsTable]
    -- the upper layer has tables at two paths only, and the lower one has tables there too
    rcases path with _ | ⟨key, path⟩
    · cases hy
      exact hlowerTable ⟨_, rfl⟩
    obtain ⟨rfl, hserver⟩ := eq_of_at?_singleton hz
    rcases path with _ | ⟨key, path⟩
    · cases hy
      exact hlowerTable ⟨_, rfl⟩
    obtain ⟨rfl, hmember⟩ := eq_of_at?_singleton hserver
    obtain ⟨-, rfl⟩ := at?_of_not_isTable hnumber hmember
    exact hnumber hupperTable
  exact ⟨hbase, hlower, hupper, ⟨_, rfl⟩, hseparates,
    (merge_idem_union_assoc hbase hlower hupper).2.2.2.2 hseparates⟩

end Value

end ApiReference.Toml
