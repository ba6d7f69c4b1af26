import Mathlib

/-!
# Occurrences of a Pattern

Every suffix of a text that the pattern begins is one occurrence.  A text is sealed against a
pattern if no occurrence of it can begin in the text and end in what follows, so that occurrences in
sealed texts add up.
-/

namespace ApiReference.Text

variable {α : Type}

/-- How often a pattern occurs in a text, overlaps included. -/
def occurrences [DecidableEq α] (pattern text : List α) : Nat :=
  text.tails.countP fun suffix ↦ decide (pattern <+: suffix)

/-- Whether no end of the text is a beginning of the pattern, the pattern itself excepted. -/
def IsSealed (pattern text : List α) : Prop :=
  ∀ suffix ∈ text.tails, suffix <+: pattern → suffix = [] ∨ suffix = pattern

instance [DecidableEq α] (pattern text : List α) : Decidable (IsSealed pattern text) :=
  inferInstanceAs (Decidable (∀ suffix ∈ text.tails, _))

variable {pattern : List α}

/-- The end of a sealed text is sealed. -/
theorem IsSealed.of_cons {a : α} {text : List α} (h : IsSealed pattern (a :: text)) :
    IsSealed pattern text := by
  intro suffix hsuffix
  exact h suffix (by simp only [List.tails_cons, List.mem_cons]; exact Or.inr hsuffix)

/-- Behind a sealed text, only the text itself decides whether the pattern begins it. -/
theorem IsSealed.prefix_append_iff {text : List α} (h : IsSealed pattern text) (htext : text ≠ [])
    (rest : List α) : pattern <+: text ++ rest ↔ pattern <+: text := by
  refine ⟨fun hprefix ↦ ?_, fun hprefix ↦ hprefix.trans (List.prefix_append text rest)⟩
  rcases Nat.le_total pattern.length text.length with hlength | hlength
  · exact List.prefix_of_prefix_length_le hprefix (List.prefix_append text rest) hlength
  · have htextPrefix : text <+: pattern :=
      List.prefix_of_prefix_length_le (List.prefix_append text rest) hprefix hlength
    rcases h text (by simp) htextPrefix with hnil | heq
    · exact absurd hnil htext
    · exact heq ▸ List.prefix_refl pattern

/-- A text without the first character of the pattern is sealed against it. -/
theorem IsSealed.of_notMem {a : α} {pattern text : List α} (h : a ∉ text) :
    IsSealed (a :: pattern) text := by
  intro suffix hsuffix hprefix
  cases suffix with
  | nil => exact Or.inl rfl
  | cons b suffix =>
    obtain ⟨rfl, -⟩ := List.cons_prefix_cons.mp hprefix
    exact absurd ((List.mem_tails _ _).mp hsuffix |>.subset (List.mem_cons_self ..)) h

variable [DecidableEq α]

theorem occurrences_nil (hpattern : pattern ≠ []) : occurrences pattern [] = 0 := by
  simp [occurrences, hpattern]

theorem occurrences_cons (a : α) (text : List α) :
    occurrences pattern (a :: text) =
      occurrences pattern text + if pattern <+: a :: text then 1 else 0 := by
  simp [occurrences, List.countP_cons]

/-- No occurrence reaches over the end of a sealed text. -/
theorem occurrences_append {text : List α} (hpattern : pattern ≠ []) (h : IsSealed pattern text)
    (rest : List α) :
    occurrences pattern (text ++ rest) = occurrences pattern text + occurrences pattern rest := by
  induction text with
  | nil => simp [occurrences_nil hpattern]
  | cons a text ih =>
    have hiff := h.prefix_append_iff (List.cons_ne_nil a text) rest
    rw [List.cons_append] at hiff ⊢
    rw [occurrences_cons, occurrences_cons, ih h.of_cons]
    simp only [hiff]
    omega

theorem occurrences_of_notMem {a : α} {pattern text : List α} (h : a ∉ text) :
    occurrences (a :: pattern) text = 0 := by
  induction text with
  | nil => exact occurrences_nil (List.cons_ne_nil a pattern)
  | cons b text ih =>
    have hne : a ≠ b := fun heq ↦ h (heq ▸ List.mem_cons_self ..)
    rw [occurrences_cons, ih fun hmem ↦ h (List.mem_cons_of_mem b hmem)]
    simp [List.cons_prefix_cons, hne]

/-- Occurrences in sealed texts that follow one another add up. -/
theorem occurrences_flatten {texts : List (List α)} (hpattern : pattern ≠ [])
    (h : ∀ text ∈ texts, IsSealed pattern text) :
    occurrences pattern texts.flatten = (texts.map (occurrences pattern)).sum := by
  induction texts with
  | nil => exact occurrences_nil hpattern
  | cons text texts ih =>
    rw [List.flatten_cons, occurrences_append hpattern (h text (List.mem_cons_self ..)),
      ih fun other hother ↦ h other (List.mem_cons_of_mem text hother), List.map_cons,
      List.sum_cons]

end ApiReference.Text
