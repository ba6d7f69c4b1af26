import ApiReference.Toml.Value
import Mathlib

/-!
# Tables

A table is looked up by key, whatever the order of its entries.  In a table whose keys ascend the
entries are those that are found, so that a search in order depends on the lookups only.
-/

namespace ApiReference.Toml.Table

variable {α β γ : Type}

def Ascending (table : Table α) : Prop :=
  table.Pairwise fun a b ↦ a.1 < b.1

/-! ## Looking up -/

theorem get?_nil (key : String) : get? ([] : Table α) key = none := rfl

theorem get?_cons (entry : String × α) (rest : Table α) (key : String) :
    get? (entry :: rest) key = if key = entry.1 then some entry.2 else get? rest key := by
  obtain ⟨name, value⟩ := entry
  rw [get?, List.lookup_cons]
  by_cases h : key = name
  · rw [if_pos h, beq_iff_eq.mpr h]
  · rw [if_neg h, beq_eq_false_iff_ne.mpr h]
    rfl

theorem mem_of_get? {table : Table α} {key : String} {value : α}
    (h : table.get? key = some value) : (key, value) ∈ table := by
  obtain ⟨before, after, rfl, -⟩ := List.lookup_eq_some_iff.mp h
  exact List.mem_append_right _ List.mem_cons_self

theorem get?_eq_none_of_lt {table : Table α} {key : String} (h : ∀ entry ∈ table, key < entry.1) :
    table.get? key = none := by
  refine List.lookup_eq_none_iff.mpr fun entry hentry ↦ ?_
  rw [bne_iff_ne]
  exact (h entry hentry).ne

theorem get?_of_mem {table : Table α} (h : table.Ascending) {key : String} {value : α}
    (hmem : (key, value) ∈ table) : table.get? key = some value := by
  induction table with
  | nil => cases hmem
  | cons entry rest ih =>
    obtain ⟨hfirst, hrest⟩ := List.pairwise_cons.mp h
    rw [get?_cons]
    rcases List.mem_cons.mp hmem with rfl | hmem
    · exact if_pos rfl
    · rw [if_neg (hfirst _ hmem).ne']
      exact ih hrest hmem

/-- Tables with the same lookups are equal. -/
theorem Ascending.ext {a b : Table α} (ha : a.Ascending) (hb : b.Ascending)
    (h : ∀ key, a.get? key = b.get? key) : a = b := by
  have hnodup {table : Table α} (htable : table.Ascending) : table.Nodup :=
    htable.imp fun hlt heq ↦ hlt.ne (congrArg Prod.fst heq)
  have hmem (entry : String × α) : entry ∈ a ↔ entry ∈ b := by
    constructor
    · intro hentry
      exact mem_of_get? ((h entry.1).symm.trans (get?_of_mem ha hentry))
    · intro hentry
      exact mem_of_get? ((h entry.1).trans (get?_of_mem hb hentry))
  exact List.Perm.eq_of_pairwise (fun x y _ _ hxy hyx ↦ absurd hxy hyx.asymm) ha hb
    ((List.perm_ext_iff_of_nodup (hnodup ha) (hnodup hb)).mpr hmem)

/-! ## Inserting -/

/-- An inserted value is found under its key, and all others as before. -/
theorem get?_insert (key : String) (value : α) (table : Table α) (other : String) :
    (table.insert key value).get? other = if other = key then some value else table.get? other := by
  induction table with
  | nil => simp [insert, get?_cons]
  | cons entry rest ih =>
    unfold insert
    split
    case isTrue => rw [get?_cons]
    case isFalse =>
      split
      case isTrue hkey =>
        rw [get?_cons, get?_cons, hkey]
        by_cases hother : other = entry.1
        · rw [if_pos hother, if_pos hother]
        · rw [if_neg hother, if_neg hother, if_neg hother]
      case isFalse hkey =>
        rw [get?_cons, get?_cons, ih]
        by_cases hother : other = entry.1
        · rw [if_pos hother, if_pos hother, if_neg fun h ↦ hkey (h.symm.trans hother)]
        · rw [if_neg hother, if_neg hother]

theorem mem_insert {key : String} {value : α} {table : Table α} {entry : String × α}
    (h : entry ∈ table.insert key value) : entry = (key, value) ∨ entry ∈ table := by
  induction table with
  | nil => exact .inl (List.mem_singleton.mp h)
  | cons first rest ih =>
    unfold insert at h
    split at h
    case isTrue => exact List.mem_cons.mp h
    case isFalse =>
      split at h
      case isTrue => exact (List.mem_cons.mp h).imp_right (List.mem_cons_of_mem first)
      case isFalse =>
        rcases List.mem_cons.mp h with rfl | h
        · exact .inr List.mem_cons_self
        · exact (ih h).imp_right (List.mem_cons_of_mem first)

/-- Keys stay in order when one is inserted. -/
theorem ascending_insert {table : Table α} (h : table.Ascending) (key : String) (value : α) :
    (table.insert key value).Ascending := by
  induction table with
  | nil => exact List.pairwise_singleton ..
  | cons entry rest ih =>
    obtain ⟨hfirst, hrest⟩ := List.pairwise_cons.mp h
    unfold insert
    split
    case isTrue hlt =>
      refine List.pairwise_cons.mpr ⟨fun other hother ↦ ?_, h⟩
      rcases List.mem_cons.mp hother with rfl | hother
      · exact hlt
      · exact hlt.trans (hfirst other hother)
    case isFalse hlt =>
      split
      case isTrue hkey =>
        exact List.pairwise_cons.mpr ⟨fun other hother ↦ hkey ▸ hfirst other hother, hrest⟩
      case isFalse hkey =>
        refine List.pairwise_cons.mpr ⟨fun other hother ↦ ?_, ih hrest⟩
        rcases mem_insert hother with rfl | hother
        · exact lt_of_le_of_ne (not_lt.mp hlt) (Ne.symm hkey)
        · exact hfirst other hother

/-! ## Tables of entries -/

theorem ofEntries_append_singleton (entries : List (String × α)) (entry : String × α) :
    ofEntries (entries ++ [entry]) = (ofEntries entries).insert entry.1 entry.2 := by
  simp [ofEntries]

theorem ascending_ofEntries (entries : List (String × α)) : (ofEntries entries).Ascending := by
  induction entries using List.reverseRec with
  | nil => exact List.Pairwise.nil
  | append_singleton entries entry ih =>
    rw [ofEntries_append_singleton]
    exact ascending_insert ih entry.1 entry.2

theorem mem_of_mem_ofEntries {entries : List (String × α)} {entry : String × α}
    (h : entry ∈ ofEntries entries) : entry ∈ entries := by
  induction entries using List.reverseRec with
  | nil => cases h
  | append_singleton entries last ih =>
    rw [ofEntries_append_singleton] at h
    rcases mem_insert h with rfl | h
    · exact List.mem_append_right _ List.mem_cons_self
    · exact List.mem_append_left _ (ih h)

/-- With distinct keys, a table finds what a list of its entries has. -/
theorem get?_ofEntries {entries : List (String × α)} (h : (entries.map Prod.fst).Nodup)
    (key : String) : (ofEntries entries).get? key = entries.lookup key := by
  induction entries using List.reverseRec with
  | nil => rfl
  | append_singleton entries entry ih =>
    obtain ⟨name, value⟩ := entry
    rw [List.map_append, List.nodup_append] at h
    obtain ⟨hentries, -, hname⟩ := h
    rw [ofEntries_append_singleton, get?_insert, ih hentries, List.lookup_append]
    by_cases hkey : key = name
    · have hnone : entries.lookup key = none := by
        refine List.lookup_eq_none_iff.mpr fun entry hentry ↦ ?_
        rw [bne_iff_ne, hkey]
        exact (hname entry.1 (List.mem_map_of_mem hentry) name (by simp)).symm
      rw [if_pos hkey, hnone, hkey, List.lookup_cons_self, Option.none_or]
    · have hnone : [(name, value)].lookup key = none := by
        rw [List.lookup_cons, beq_eq_false_iff_ne.mpr hkey]
        rfl
      rw [if_neg hkey, hnone, Option.or_none]

/-! ## Searching in order -/

/-- The first entry of a sorted table that gives something has the least such key. -/
theorem findSome?_eq_some_iff {table : Table α} (h : table.Ascending) (f : String → α → Option β)
    (x : β) : (table.findSome? fun entry ↦ f entry.1 entry.2) = some x ↔
      ∃ key, (table.get? key).bind (f key) = some x ∧
        ∀ other < key, (table.get? other).bind (f other) = none := by
  induction table with
  | nil => simp [get?_nil]
  | cons entry rest ih =>
    obtain ⟨name, value⟩ := entry
    obtain ⟨hfirst, hrest⟩ := List.pairwise_cons.mp h
    have habsent : get? rest name = none := get?_eq_none_of_lt hfirst
    have hbefore {key : String} (hkey : key < name) : get? ((name, value) :: rest) key = none := by
      rw [get?_cons, if_neg hkey.ne]
      exact get?_eq_none_of_lt fun entry hentry ↦ hkey.trans (hfirst entry hentry)
    have hname : get? ((name, value) :: rest) name = some value := by
      rw [get?_cons, if_pos rfl]
    rw [List.findSome?_cons]
    cases hvalue : f name value with
    | some y =>
      constructor
      · rintro ⟨rfl⟩
        refine ⟨name, by rw [hname, Option.bind_some, hvalue], fun other hother ↦ ?_⟩
        rw [hbefore hother, Option.bind_none]
      · rintro ⟨key, hkey, hothers⟩
        rcases lt_trichotomy key name with hlt | rfl | hlt
        · rw [hbefore hlt] at hkey
          cases hkey
        · rw [hname, Option.bind_some, hvalue] at hkey
          exact hkey
        · have hnone := hothers name hlt
          rw [hname, Option.bind_some, hvalue] at hnone
          cases hnone
    | none =>
      -- the first entry gives nothing, so the rest is searched by the same lookups
      have hsame (key : String) : (get? ((name, value) :: rest) key).bind (f key) =
          (get? rest key).bind (f key) := by
        by_cases hkey : key = name
        · rw [hkey, hname, habsent, Option.bind_some, hvalue, Option.bind_none]
        · rw [get?_cons, if_neg hkey]
      simp only [hsame]
      exact ih hrest

/-- A search in order finds the same where every key gives the same. -/
theorem findSome?_congr {a : Table α} {b : Table γ} (ha : a.Ascending) (hb : b.Ascending)
    {f : String → α → Option β} {g : String → γ → Option β}
    (h : ∀ key, (a.get? key).bind (f key) = (b.get? key).bind (g key)) :
    (a.findSome? fun entry ↦ f entry.1 entry.2) = b.findSome? fun entry ↦ g entry.1 entry.2 := by
  ext x
  rw [findSome?_eq_some_iff ha, findSome?_eq_some_iff hb]
  simp only [h]

end ApiReference.Toml.Table
