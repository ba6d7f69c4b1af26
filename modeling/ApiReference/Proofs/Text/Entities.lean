import ApiReference.Proofs.Text.Html

/-!
# The Five Entities

An ampersand of an escaped text always begins one of the five entities that escaping writes.  So the
text is read back in one pass from left to right, and texts that look escaped already are no
exception.
-/

namespace ApiReference.Text.Html

/-! ## Ampersands -/

/-- The characters that are written as entities. -/
def escaped : List Char :=
  '&' :: delimiters

/-- The entities that they are written as. -/
def entities : List (List Char) :=
  ["&amp;".toList, "&lt;".toList, "&gt;".toList, "&quot;".toList, "&#x27;".toList]

theorem entity_mem_entities : ∀ c ∈ escaped, entity c ∈ entities := by
  rw [show entities = escaped.map entity by decide]
  exact fun c hc ↦ List.mem_map_of_mem hc

theorem entity_of_notMem {c : Char} (h : c ∉ escaped) : entity c = [c] := by
  simp only [escaped, delimiters, List.mem_cons, List.not_mem_nil, or_false, not_or] at h
  obtain ⟨hamp, hlt, hgt, hquot, hapos⟩ := h
  exact entity_of_ne hamp hlt hgt hquot hapos

/-- An ampersand stands at most at the beginning of what is written for a character, and then the
character is one that is escaped. -/
theorem eq_nil_of_entity_eq {c : Char} {before after : List Char}
    (h : entity c = before ++ '&' :: after) : before = [] ∧ c ∈ escaped := by
  have htail : '&' ∉ (entity c).tail := by
    induction c using entity_cases with
    | hamp | hlt | hgt | hquot | hapos => decide
    | hother c hamp hlt hgt hquot hapos => simp [entity_of_ne hamp hlt hgt hquot hapos]
  cases before with
  | cons d before => simp [h] at htail
  | nil =>
    refine ⟨rfl, ?_⟩
    by_contra hother
    rw [entity_of_notMem hother] at h
    cases h
    exact hother List.mem_cons_self

/-- Every ampersand of an escaped text was written for a character of the text: the entity of that
character begins with it, between what is written for the characters before and after. -/
theorem exists_of_escapeChars_eq {cs before after : List Char}
    (h : escapeChars cs = before ++ '&' :: after) :
    ∃ left c right, cs = left ++ c :: right ∧ c ∈ escaped ∧ before = escapeChars left ∧
      '&' :: after = entity c ++ escapeChars right := by
  induction cs generalizing before with
  | nil => exact absurd h.symm (by simp [escapeChars, replaceChar])
  | cons c cs ih =>
    rw [escapeChars_cons] at h
    -- the ampersand stands in what is written for the first character, or for a later one
    rcases List.append_eq_append_iff.mp h with ⟨mid, hbefore, hlater⟩ | ⟨mid, hentity, hafter⟩
    · obtain ⟨left, d, right, rfl, hd, rfl, hright⟩ := ih hlater
      exact ⟨c :: left, d, right, rfl, hd, by rw [hbefore, escapeChars_cons], hright⟩
    · cases mid with
      | cons d mid =>
        obtain ⟨rfl, rfl⟩ := List.cons.inj hafter
        obtain ⟨rfl, hc⟩ := eq_nil_of_entity_eq hentity
        exact ⟨[], c, cs, rfl, hc, rfl, by rw [hentity]; rfl⟩
      | nil =>
        have hlater : escapeChars cs = [] ++ '&' :: after := hafter.symm
        obtain ⟨left, d, right, rfl, hd, hleft, hright⟩ := ih hlater
        refine ⟨c :: left, d, right, rfl, hd, ?_, hright⟩
        rw [escapeChars_cons, ← hleft, hentity, List.append_nil, List.append_nil]

/-- Every ampersand of an escaped text begins an entity. -/
theorem exists_entity_of_ampersand {text : String} {before after : List Char}
    (h : (escape text).toList = before ++ '&' :: after) :
    ∃ name ∈ entities, name <+: '&' :: after := by
  rw [escape, String.toList_ofList] at h
  obtain ⟨left, c, right, -, hc, -, hafter⟩ := exists_of_escapeChars_eq h
  exact ⟨entity c, entity_mem_entities c hc, escapeChars right, hafter.symm⟩

/-! ## One pass -/

/-- Reads a text from left to right, every entity as its character and all else as it stands. -/
def readEntities : List Char → List Char
  | '&' :: 'a' :: 'm' :: 'p' :: ';' :: rest => '&' :: readEntities rest
  | '&' :: 'l' :: 't' :: ';' :: rest => '<' :: readEntities rest
  | '&' :: 'g' :: 't' :: ';' :: rest => '>' :: readEntities rest
  | '&' :: 'q' :: 'u' :: 'o' :: 't' :: ';' :: rest => '"' :: readEntities rest
  | '&' :: '#' :: 'x' :: '2' :: '7' :: ';' :: rest => '\'' :: readEntities rest
  | c :: rest => c :: readEntities rest
  | [] => []

/-- The text that a text with entities stands for. -/
def unescape (text : String) : String :=
  String.ofList (readEntities text.toList)

/-- Only an ampersand begins an entity. -/
theorem readEntities_cons {c : Char} (h : c ≠ '&') (rest : List Char) :
    readEntities (c :: rest) = c :: readEntities rest := by
  conv_lhs => unfold readEntities
  split <;> simp_all

theorem readEntities_entity_append (c : Char) (rest : List Char) :
    readEntities (entity c ++ rest) = c :: readEntities rest := by
  induction c using entity_cases with
  | hamp | hlt | hgt | hquot | hapos => rfl
  | hother c hamp hlt hgt hquot hapos =>
    rw [entity_of_ne hamp hlt hgt hquot hapos, List.singleton_append, readEntities_cons hamp]

theorem readEntities_escapeChars (cs : List Char) : readEntities (escapeChars cs) = cs := by
  induction cs with
  | nil => rfl
  | cons c cs ih => rw [escapeChars_cons, readEntities_entity_append, ih]

/-- What was escaped is read back. -/
theorem unescape_escape (text : String) : unescape (escape text) = text := by
  rw [unescape, escape, String.toList_ofList, readEntities_escapeChars, String.ofList_toList]

theorem escape_injective : Function.Injective escape :=
  Function.LeftInverse.injective unescape_escape

/-- The five replacements one after another write every character on its own.  What they write holds
no character that has a meaning in markup, only ampersands that begin an entity, and is read back in
one pass, so that no two texts are written the same. -/
theorem escape_faithful (text : String) :
    escape text = String.ofList (text.toList.flatMap entity) ∧
    (∀ d ∈ delimiters, d ∉ (escape text).toList) ∧
    (∀ before after, (escape text).toList = before ++ '&' :: after →
      ∃ name ∈ entities, name <+: '&' :: after) ∧
    unescape (escape text) = text ∧
    ∀ other, escape other = escape text → other = text := by
  refine ⟨?_, fun d hd ↦ notMem_escape hd text, fun before after ↦ exists_entity_of_ampersand,
    unescape_escape text, fun other hsame ↦ escape_injective hsame⟩
  rw [escape, escapeChars_eq_flatMap]

/-- The entity of an ampersand is escaped as well, and is not read as an ampersand. -/
example : escape "&lt;" = "&amp;lt;" ∧ unescape "&amp;lt;" = "&lt;" := by decide

end ApiReference.Text.Html
