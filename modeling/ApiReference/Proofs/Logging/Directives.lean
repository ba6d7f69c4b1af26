import ApiReference.Logging.Filter
import ApiReference.Proofs.Text.Utf8

/-!
# Cuts in Filter Directives

The parts of a directive are cut out of its text at places that are counted without the blanks
before it.  So a cut falls between characters unless there are such blanks and some character takes
more than one byte, and no other refusal has to do with cuts.
-/

namespace ApiReference

namespace Text

/-- Trimming takes nothing away before a text that begins with no blank. -/
theorem trim_prefix_of_head {text : List Char} (h : ∀ c ∈ text.head?, isBlankChar c = false) :
    trim text <+: text := by
  have hstart : trimStart text = text := by
    cases text with
    | nil => rfl
    | cons c rest =>
      have hc : isBlankChar c = false := h c rfl
      exact List.dropWhile_cons_of_neg (by simp [hc])
  rw [trim, hstart, trimEnd, trimStart, ← List.reverse_suffix, List.reverse_reverse]
  exact List.dropWhile_suffix isBlankChar

theorem trim_sublist (text : List Char) : (trim text).Sublist text := by
  have hend : (trim text).Sublist (trimStart text) := by
    rw [trim, trimEnd, ← List.reverse_sublist, List.reverse_reverse]
    exact List.dropWhile_sublist isBlankChar
  exact hend.trans (List.dropWhile_sublist isBlankChar)

end Text

namespace Logging

open Text

namespace Directive

/-! ## Places between characters -/

/-- A place between two characters of a text, or at one of its ends. -/
def IsBoundary (text : List Char) (place : Nat) : Prop :=
  ∃ before, before <+: text ∧ Utf8.length before = place

theorem isBoundary_length (text : List Char) : IsBoundary text (Utf8.length text) :=
  ⟨text, List.prefix_rfl, rfl⟩

/-- The bytes before a boundary are those of the characters before it. -/
theorem IsBoundary.exists_decode? {text : List Char} {place : Nat} (h : IsBoundary text place) :
    ∃ before, Utf8.decode? ((Utf8.encode text).take place) = some before := by
  obtain ⟨before, ⟨after, rfl⟩, rfl⟩ := h
  use before
  calc
    Utf8.decode? ((Utf8.encode (before ++ after)).take (Utf8.length before)) =
        Utf8.decode? (Utf8.encode before) := by
      rw [Utf8.encode_append]
      exact congrArg Utf8.decode? (List.take_left' rfl)
    _ = some before := Utf8.decode?_encode before

/-- A part that begins and ends between characters can be cut out. -/
theorem exists_slice {text : List Char} {first last : Nat} (hfirst : IsBoundary text first)
    (hlast : IsBoundary text last) : ∃ part, slice text first last = .ok part := by
  obtain ⟨before, hbefore⟩ := hfirst.exists_decode?
  obtain ⟨part, hpart⟩ := hlast.exists_decode?
  use part.drop before.length
  rw [slice, hbefore, hpart]

/-- A text whose places can be counted without the blanks around it: where a character of the
trimmed text begins or ends, one of the whole text begins or ends. -/
def IsCountable (text : List Char) : Prop :=
  ∀ read, read <+: trim text → IsBoundary text (Utf8.length read)

/-- Places can be counted in a text that does not begin with a blank. -/
theorem isCountable_of_head {text : List Char} (h : ∀ c ∈ text.head?, isBlankChar c = false) :
    IsCountable text :=
  fun read hread ↦ ⟨read, hread.trans (trim_prefix_of_head h), rfl⟩

/-- Places can be counted where every character takes one byte. -/
theorem isCountable_of_single {text : List Char} (h : ∀ c ∈ text, Utf8.length [c] = 1) :
    IsCountable text := by
  intro read hread
  have hmem : ∀ c ∈ read, Utf8.length [c] = 1 :=
    fun c hc ↦ h c ((hread.sublist.trans (trim_sublist text)).mem hc)
  have hle : read.length ≤ text.length :=
    (hread.sublist.trans (trim_sublist text)).length_le
  use text.take read.length
  constructor
  · exact List.take_prefix read.length text
  · rw [Utf8.length_of_single hmem,
      Utf8.length_of_single fun c hc ↦ h c (List.mem_of_mem_take hc),
      List.length_take_of_le hle]

/-! ## Readings that no cut breaks off -/

/-- A reading comes to a result that fulfils `post`, or it is refused for some other reason than a
cut inside a character. -/
inductive Cuts {α : Type} (post : α → Prop) : Except DirectiveError α → Prop
  | ok {a : α} (h : post a) : Cuts post (.ok a)
  | error {error : DirectiveError} (h : error ≠ .splitCharacter) : Cuts post (.error error)

namespace Cuts

variable {α β : Type} {post : α → Prop}

theorem ne_splitCharacter {result : Except DirectiveError α} (h : Cuts post result) :
    result ≠ .error .splitCharacter := by
  cases h with
  | ok => simp
  | error h => simpa using h

theorem of_ne_splitCharacter {result : Except DirectiveError α}
    (h : result ≠ .error .splitCharacter) : Cuts (fun _ ↦ True) result := by
  cases result with
  | ok => exact .ok trivial
  | error => exact .error fun heq ↦ h (congrArg Except.error heq)

theorem bind {post' : β → Prop} {result : Except DirectiveError α}
    {rest : α → Except DirectiveError β} (h : Cuts post result)
    (hrest : ∀ a, post a → Cuts post' (rest a)) : Cuts post' (result >>= rest) := by
  cases h with
  | ok h => exact hrest _ h
  | error h => exact .error h

theorem slice {text : List Char} {first last : Nat} (hfirst : IsBoundary text first)
    (hlast : IsBoundary text last) : Cuts (fun _ ↦ True) (Directive.slice text first last) := by
  obtain ⟨part, hpart⟩ := exists_slice hfirst hlast
  rw [hpart]
  exact .ok trivial

/-- A refusal of a field is not a cut inside a character. -/
theorem mapError_field (result : Except PatternError α) :
    Cuts (fun _ ↦ True) (result.mapError .field) := by
  cases result with
  | ok => exact .ok trivial
  | error => exact .error (by simp)

theorem mapM {read : α → Except DirectiveError β} {items : List α}
    (h : ∀ a ∈ items, Cuts (fun _ ↦ True) (read a)) : Cuts (fun _ ↦ True) (items.mapM read) := by
  induction items with
  | nil => exact .ok trivial
  | cons a items ih =>
    obtain ⟨ha, hitems⟩ := List.forall_mem_cons.mp h
    rw [List.mapM_cons]
    exact ha.bind fun _ _ ↦ (ih hitems).bind fun _ _ ↦ .ok trivial

end Cuts

/-! ## Steps of the reader -/

/-- The place that a stage remembers. -/
def Stage.place? : Stage → Option Nat
  | .word place | .span place | .field place | .level place => some place
  | .start | .fields | .target => none

/-- A stage that remembers no place inside a character. -/
def Stage.IsBounded (text : List Char) (stage : Stage) : Prop :=
  ∀ place ∈ stage.place?, IsBoundary text place

variable {text : List Char} {position : Nat} {c : Char}

theorem Stage.isBounded_of_none {stage : Stage} (h : stage.place? = none) :
    stage.IsBounded text := by
  intro place hplace
  rw [h] at hplace
  cases hplace

theorem Stage.isBounded_of_some {stage : Stage} {place : Nat} (h : stage.place? = some place)
    (hplace : IsBoundary text place) : stage.IsBounded text := by
  intro other hother
  rw [h] at hother
  exact Option.some.inj hother ▸ hplace

/-- A character between two boundaries takes the reader to a stage that remembers one of them or
the place that was remembered before. -/
theorem cuts_next (hposition : IsBoundary text position)
    (hafter : IsBoundary text (position + Utf8.length [c])) (directive : Directive) {stage : Stage}
    (hstage : stage.IsBounded text) :
    Cuts (fun result ↦ result.2.IsBounded text) (next text position directive stage c) := by
  cases stage with
  | start =>
    rw [next]
    split_ifs with hbracket hbegins
    · rw [hbracket] at hafter
      exact .ok (Stage.isBounded_of_some rfl hafter)
    · exact .ok (Stage.isBounded_of_some rfl hposition)
    · exact .error (by simp)
  | word first =>
    have hfirst : IsBoundary text first := hstage first rfl
    rw [next]
    split_ifs with hmark hequals
    · rw [hequals] at hafter
      exact (Cuts.slice hfirst hposition).bind fun _ _ ↦ .ok (Stage.isBounded_of_some rfl hafter)
    · rw [hmark.resolve_left hequals] at hafter
      exact (Cuts.slice hfirst hposition).bind fun _ _ ↦ .ok (Stage.isBounded_of_some rfl hafter)
    · exact .ok hstage
  | span first =>
    have hfirst : IsBoundary text first := hstage first rfl
    rw [next]
    split_ifs with hend hfields
    · exact (Cuts.slice hfirst hposition).bind fun _ _ ↦ .ok (Stage.isBounded_of_none rfl)
    · rw [hfields] at hafter
      exact (Cuts.slice hfirst hposition).bind fun _ _ ↦ .ok (Stage.isBounded_of_some rfl hafter)
    · exact .ok hstage
  | field first =>
    have hfirst : IsBoundary text first := hstage first rfl
    rw [next]
    by_cases hmark : c = '\x7d' ∨ c = ','
    · rw [if_pos hmark]
      apply (Cuts.slice hfirst hposition).bind
      intro part _
      by_cases hempty : part.isEmpty = true
      · simp only [hempty, if_true]
        exact .error (by simp)
      · simp only [hempty, Bool.false_eq_true, if_false]
        apply (Cuts.mapError_field _).bind
        intro field _
        apply Cuts.ok
        split_ifs with hcomma
        · rw [hcomma] at hafter
          exact Stage.isBounded_of_some rfl hafter
        · exact Stage.isBounded_of_none rfl
    · rw [if_neg hmark]
      exact .ok hstage
  | fields =>
    rw [next]
    split_ifs
    · exact .ok (Stage.isBounded_of_none rfl)
    · exact .error (by simp)
  | target =>
    rw [next]
    split_ifs with hequals
    · rw [hequals] at hafter
      exact .ok (Stage.isBounded_of_some rfl hafter)
    · exact .error (by simp)
  | level first =>
    rw [next]
    exact .ok hstage

theorem cuts_finish (directive : Directive) {stage : Stage} (hstage : stage.IsBounded text) :
    Cuts (fun _ ↦ True) (finish text directive stage) := by
  cases stage with
  | word first =>
    rw [finish]
    apply (Cuts.slice (hstage first rfl) (isBoundary_length text)).bind
    intro word _
    split_ifs
    · exact .ok trivial
    · cases Threshold.ofText? word with
      | none => exact .ok trivial
      | some => exact .ok trivial
  | level first =>
    rw [finish]
    apply (Cuts.slice (hstage first rfl) (isBoundary_length text)).bind
    intro word _
    split_ifs
    · exact .ok trivial
    · cases Threshold.ofText? word with
      | none => exact .error (by simp)
      | some => exact .ok trivial
  | target => exact .ok trivial
  | start | span | field | fields => exact .error (by simp)

/-- What the reader does with one more character. -/
def advance (text : List Char) (state : Directive × Stage × Nat) (c : Char) :
    Except DirectiveError (Directive × Stage × Nat) := do
  let result ← next text state.2.2 state.1 state.2.1 c
  return (result.1, result.2, state.2.2 + Utf8.length [c])

/-- A directive is parsed character by character, and finished at its end. -/
theorem parse_eq (text : List Char) : parse text =
    (trim text).foldlM (advance text) ({}, .start, 0) >>= fun state ↦
      finish text state.1 state.2.1 :=
  rfl

/-- The parser keeps only positions between characters, and so cuts at no other. -/
theorem cuts_foldlM_advance (directive : Directive) {stage : Stage} {read rest : List Char}
    (hplaces : ∀ before, before <+: read ++ rest → IsBoundary text (Utf8.length before))
    (hstage : stage.IsBounded text) : Cuts (fun state ↦ state.2.1.IsBounded text)
      (rest.foldlM (advance text) (directive, stage, Utf8.length read)) := by
  induction rest generalizing directive stage read with
  | nil => exact .ok hstage
  | cons c rest ih =>
    rw [List.append_cons] at hplaces
    have hposition : IsBoundary text (Utf8.length read) :=
      hplaces read ⟨[c] ++ rest, (List.append_assoc _ _ _).symm⟩
    have hafter : IsBoundary text (Utf8.length read + Utf8.length [c]) := by
      rw [← Utf8.length_append]
      exact hplaces (read ++ [c]) (List.prefix_append _ _)
    rw [List.foldlM_cons, advance, bind_assoc]
    apply (cuts_next hposition hafter directive hstage).bind
    intro result hresult
    rw [pure_bind, ← Utf8.length_append]
    exact ih result.1 hplaces hresult

/-- Where places can be counted without the blanks, a directive is read or refused for what it
says. -/
theorem cuts_parse (h : IsCountable text) : Cuts (fun _ ↦ True) (parse text) := by
  rw [parse_eq]
  have hfold : Cuts (fun state ↦ state.2.1.IsBounded text)
      ((trim text).foldlM (advance text) ({}, .start, Utf8.length [])) :=
    cuts_foldlM_advance {} h (Stage.isBounded_of_none rfl)
  apply hfold.bind
  intro state hstate
  exact cuts_finish state.1 hstate

/-- A cut falls inside a character only in a text that begins with a blank and holds a character of
several bytes. -/
theorem of_parse_eq_splitCharacter (h : parse text = .error .splitCharacter) :
    (∃ c ∈ text.head?, isBlankChar c = true) ∧ ∃ c ∈ text, Utf8.length [c] ≠ 1 := by
  have hcount : ¬ IsCountable text := fun hcount ↦ (cuts_parse hcount).ne_splitCharacter h
  constructor
  · by_contra hhead
    push Not at hhead
    exact hcount (isCountable_of_head fun c hc ↦ Bool.eq_false_of_not_eq_true (hhead c hc))
  · by_contra hsingle
    push Not at hsingle
    exact hcount (isCountable_of_single hsingle)

end Directive

/-! ## Filters -/

namespace Filter

/-- A filter is broken off only by a directive that begins with a blank and holds a character of
several bytes. -/
theorem exists_of_parse_eq_splitCharacter {level : String}
    (h : parse level = .error .splitCharacter) : ∃ piece ∈ splitAll ',' level.toList,
      (∃ c ∈ piece.head?, isBlankChar c = true) ∧ ∃ c ∈ piece, Utf8.length [c] ≠ 1 := by
  by_contra hnone
  have hpieces : ∀ piece ∈ (splitAll ',' level.toList).filter fun piece ↦ !piece.isEmpty,
      Directive.Cuts (fun _ ↦ True) (Directive.parse piece) := by
    intro piece hpiece
    apply Directive.Cuts.of_ne_splitCharacter
    intro hparse
    exact hnone ⟨piece, List.mem_of_mem_filter hpiece, Directive.of_parse_eq_splitCharacter hparse⟩
  have hparse : Directive.Cuts (fun _ ↦ True) (parse level) :=
    (Directive.Cuts.mapM hpieces).bind fun _ _ ↦ .ok trivial
  exact hparse.ne_splitCharacter h

end Filter

end Logging

end ApiReference
