import ApiReference.Text.Split
import Mathlib

/-!
# Cutting and Joining

What is cut at separators is put together again from its pieces, and pieces without separators come
back when a list is cut that was put together from them.
-/

namespace ApiReference.Text

variable {α : Type} [DecidableEq α]

/-! ## The first separator -/

/-- A text is split at the first separator. -/
theorem splitFirst_append {separator : α} {before : List α} (h : separator ∉ before)
    (after : List α) :
    splitFirst separator (before ++ separator :: after) = some (before, after) := by
  induction before with
  | nil => simp [splitFirst]
  | cons a before ih =>
    obtain ⟨hhead, hrest⟩ := not_or.mp (mt List.mem_cons.mpr h)
    rw [List.cons_append, splitFirst, if_neg (Ne.symm hhead), ih hrest]
    rfl

theorem splitFirst_of_notMem {separator : α} {text : List α} (h : separator ∉ text) :
    splitFirst separator text = none := by
  induction text with
  | nil => rfl
  | cons a text ih =>
    obtain ⟨hhead, hrest⟩ := not_or.mp (mt List.mem_cons.mpr h)
    rw [splitFirst, if_neg (Ne.symm hhead), ih hrest]
    rfl

/-! ## All separators -/

theorem splitAll_of_notMem {separator : α} {piece : List α} (h : separator ∉ piece) :
    splitAll separator piece = [piece] := by
  induction piece with
  | nil => rfl
  | cons a piece ih =>
    obtain ⟨hhead, hrest⟩ := not_or.mp (mt List.mem_cons.mpr h)
    rw [splitAll, if_neg (Ne.symm hhead), ih hrest]

/-- A piece without separators is split off whole. -/
theorem splitAll_append {separator : α} {piece : List α} (h : separator ∉ piece)
    (rest : List α) :
    splitAll separator (piece ++ separator :: rest) = piece :: splitAll separator rest := by
  induction piece with
  | nil => rw [List.nil_append, splitAll, if_pos rfl]
  | cons a piece ih =>
    obtain ⟨hhead, hrest⟩ := not_or.mp (mt List.mem_cons.mpr h)
    rw [List.cons_append, splitAll, if_neg (Ne.symm hhead), ih hrest]

/-- Pieces that have no separator come back when what joins them is cut. -/
theorem splitAll_intercalate {separator : α} {pieces : List (List α)} (hne : pieces ≠ [])
    (h : ∀ piece ∈ pieces, separator ∉ piece) :
    splitAll separator ([separator].intercalate pieces) = pieces := by
  induction pieces with
  | nil => exact absurd rfl hne
  | cons piece rest ih =>
    obtain ⟨hpiece, hrest⟩ := List.forall_mem_cons.mp h
    cases rest with
    | nil =>
      rw [List.intercalate_singleton]
      exact splitAll_of_notMem hpiece
    | cons next rest =>
      rw [List.intercalate_cons_cons, List.append_assoc, List.singleton_append,
        splitAll_append hpiece, ih (by simp) hrest]

theorem splitAll_ne_nil (separator : α) (text : List α) : splitAll separator text ≠ [] := by
  fun_cases splitAll separator text <;> simp_all

/-- Every list is joined from pieces that have no separator. -/
theorem exists_intercalate (separator : α) (text : List α) :
    ∃ pieces, pieces ≠ [] ∧ (∀ piece ∈ pieces, separator ∉ piece) ∧
      [separator].intercalate pieces = text := by
  induction text with
  | nil => exact ⟨[[]], by simp, by simp, rfl⟩
  | cons a text ih =>
    obtain ⟨pieces, hne, hpieces, rfl⟩ := ih
    obtain ⟨piece, rest, rfl⟩ := List.exists_cons_of_ne_nil hne
    obtain ⟨hpiece, hrest⟩ := List.forall_mem_cons.mp hpieces
    by_cases ha : a = separator
    · subst ha
      refine ⟨[] :: piece :: rest, by simp, List.forall_mem_cons.mpr ⟨by simp, hpieces⟩, ?_⟩
      rw [List.intercalate_cons_cons]
      rfl
    · have hlonger : separator ∉ a :: piece := by
        simp [Ne.symm ha, hpiece]
      refine ⟨(a :: piece) :: rest, by simp, List.forall_mem_cons.mpr ⟨hlonger, hrest⟩, ?_⟩
      cases rest with
      | nil => rw [List.intercalate_singleton, List.intercalate_singleton]
      | cons next rest =>
        rw [List.intercalate_cons_cons, List.intercalate_cons_cons, List.cons_append,
          List.cons_append]

/-- What stands between separators stands in one of the pieces. -/
theorem eq_or_exists_of_mem_intercalate {β : Type} {separator a : β} {pieces : List (List β)}
    (h : a ∈ [separator].intercalate pieces) : a = separator ∨ ∃ piece ∈ pieces, a ∈ piece := by
  induction pieces with
  | nil => cases h
  | cons piece rest ih =>
    cases rest with
    | nil => exact .inr ⟨piece, by simp, by rwa [List.intercalate_singleton] at h⟩
    | cons next rest =>
      rw [List.intercalate_cons_cons, List.append_assoc, List.mem_append, List.mem_append,
        List.mem_singleton] at h
      rcases h with h | h | h
      · exact .inr ⟨piece, by simp, h⟩
      · exact .inl h
      · exact (ih h).imp_right fun ⟨other, hother, hmem⟩ ↦
          ⟨other, List.mem_cons_of_mem _ hother, hmem⟩

/-! ## Pieces that are joined -/

section

variable {ι β γ : Type}

/-- Two images of a list are related if those of each member are. -/
theorem forall₂_map_map {related : β → γ → Prop} {f : ι → β} {g : ι → γ} {xs : List ι}
    (h : ∀ a ∈ xs, related (f a) (g a)) : List.Forall₂ related (xs.map f) (xs.map g) :=
  List.forall₂_map_left_iff.mpr (List.forall₂_map_right_iff.mpr (List.forall₂_same.mpr h))

/-- What keeps appending keeps joining. -/
theorem map_intercalate {f : List β → List γ} (hnil : f [] = [])
    (happend : ∀ xs ys, f (xs ++ ys) = f xs ++ f ys) (separator : List β)
    (pieces : List (List β)) :
    f (separator.intercalate pieces) = (f separator).intercalate (pieces.map f) := by
  induction pieces with
  | nil => exact hnil
  | cons piece rest ih =>
    cases rest with
    | nil => rw [List.map_singleton, List.intercalate_singleton, List.intercalate_singleton]
    | cons next rest =>
      rw [List.intercalate_cons_cons, happend, happend, ih]
      exact List.intercalate_cons_cons.symm

/-- Lists whose pieces are related one by one are related. -/
theorem forall₂_intercalate {related : β → γ → Prop} {separator : List β} {other : List γ}
    (hseparator : List.Forall₂ related separator other) {pieces : List (List β)}
    {others : List (List γ)} (h : List.Forall₂ (List.Forall₂ related) pieces others) :
    List.Forall₂ related (separator.intercalate pieces) (other.intercalate others) := by
  induction h with
  | nil => exact .nil
  | cons hpiece hrest ih =>
    cases hrest with
    | nil => simpa only [List.intercalate_singleton] using hpiece
    | cons =>
      rw [List.intercalate_cons_cons, List.intercalate_cons_cons]
      exact List.rel_append (List.rel_append hpiece hseparator) ih

end

/-! ## Pairs of separators -/

theorem splitPaired_ne_nil (separator : α) (text : List α) : splitPaired separator text ≠ [] := by
  fun_cases splitPaired separator text <;> simp_all

/-- Joining undoes the cut, so that different lists are cut differently. -/
theorem intercalate_splitPaired (separator : α) (text : List α) :
    [separator, separator].intercalate (splitPaired separator text) = text := by
  induction text using splitPaired.induct separator with
  | case1 => rfl
  | case2 a => rfl
  | case3 a b rest h ih =>
    obtain ⟨rfl, rfl⟩ := h
    rw [splitPaired, if_pos ⟨rfl, rfl⟩]
    -- what follows is cut into one piece at least, so the separators stand before a piece
    obtain ⟨piece, pieces, hpieces⟩ := List.exists_cons_of_ne_nil (splitPaired_ne_nil b rest)
    rw [hpieces] at ih ⊢
    rw [List.intercalate_cons_cons, ih]
    rfl
  | case4 a b rest h hnil ih =>
    exact absurd hnil (splitPaired_ne_nil separator (b :: rest))
  | case5 a b rest h piece pieces hpieces ih =>
    rw [splitPaired, if_neg h, hpieces]
    rw [hpieces] at ih
    cases pieces with
    | nil =>
      rw [List.intercalate_singleton] at ih ⊢
      rw [ih]
    | cons next pieces =>
      rw [List.intercalate_cons_cons] at ih ⊢
      rw [List.cons_append, List.cons_append, ih]

/-- Texts that are split alike are equal. -/
theorem splitPaired_injective (separator : α) : Function.Injective (splitPaired separator) :=
  Function.LeftInverse.injective (intercalate_splitPaired separator)

/-! ## Beginnings -/

theorem dropBeginning?_append (beginning rest : List α) :
    dropBeginning? beginning (beginning ++ rest) = some rest := by
  induction beginning with
  | nil => rfl
  | cons a beginning ih => rw [List.cons_append, dropBeginning?, if_pos rfl, ih]

end ApiReference.Text
