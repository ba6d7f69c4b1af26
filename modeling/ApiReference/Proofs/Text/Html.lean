import ApiReference.Text.Digits
import ApiReference.Text.Html
import Mathlib

/-!
# Reading Escaped HTML Text

Escaping with one replacement after another is the same as escaping every character on its own, as
no replacement meets what an earlier one wrote.  An escaped text holds no character that has a
meaning in markup, and reading its character references gives the text back.
-/

namespace ApiReference.Text.Html

/-! ## One pass -/

/-- How one character is written in an escaped text. -/
def entity (c : Char) : List Char :=
  match c with
  | '&' => ['&', 'a', 'm', 'p', ';']
  | '<' => ['&', 'l', 't', ';']
  | '>' => ['&', 'g', 't', ';']
  | '"' => ['&', 'q', 'u', 'o', 't', ';']
  | '\'' => ['&', '#', 'x', '2', '7', ';']
  | c => [c]

theorem entity_of_ne {c : Char} (hamp : c ≠ '&') (hlt : c ≠ '<') (hgt : c ≠ '>') (hquot : c ≠ '"')
    (hapos : c ≠ '\'') : entity c = [c] := by
  unfold entity
  split <;> simp_all

/-- Every character is one of the five that are escaped or stands for itself. -/
theorem entity_cases {motive : Char → Prop} (hamp : motive '&') (hlt : motive '<')
    (hgt : motive '>') (hquot : motive '"') (hapos : motive '\'')
    (hother : ∀ c, c ≠ '&' → c ≠ '<' → c ≠ '>' → c ≠ '"' → c ≠ '\'' → motive c) (c : Char) :
    motive c := by
  by_cases h₁ : c = '&'
  · exact h₁ ▸ hamp
  by_cases h₂ : c = '<'
  · exact h₂ ▸ hlt
  by_cases h₃ : c = '>'
  · exact h₃ ▸ hgt
  by_cases h₄ : c = '"'
  · exact h₄ ▸ hquot
  by_cases h₅ : c = '\''
  · exact h₅ ▸ hapos
  exact hother c h₁ h₂ h₃ h₄ h₅

theorem escapeChars_append (before after : List Char) :
    escapeChars (before ++ after) = escapeChars before ++ escapeChars after := by
  simp only [escapeChars, replaceChar, List.flatMap_append]

theorem escapeChars_singleton (c : Char) : escapeChars [c] = entity c := by
  induction c using entity_cases with
  | hamp | hlt | hgt | hquot | hapos => rfl
  | hother c hamp hlt hgt hquot hapos =>
    simp [escapeChars, replaceChar, entity_of_ne hamp hlt hgt hquot hapos, hamp, hlt, hgt, hquot,
      hapos]

theorem escapeChars_cons (c : Char) (cs : List Char) :
    escapeChars (c :: cs) = entity c ++ escapeChars cs := by
  rw [← List.singleton_append, escapeChars_append, escapeChars_singleton]

/-- The replacements one after another write every character by itself. -/
theorem escapeChars_eq_flatMap (cs : List Char) : escapeChars cs = cs.flatMap entity := by
  induction cs with
  | nil => rfl
  | cons c cs ih => rw [escapeChars_cons, ih, List.flatMap_cons]

/-! ## No markup -/

/-- The characters that have a meaning in markup, the ampersand apart. -/
def delimiters : List Char :=
  ['<', '>', '"', '\'']

/-- No entity has a delimiter of markup. -/
theorem notMem_entity (c : Char) : ∀ d ∈ delimiters, d ∉ entity c := by
  induction c using entity_cases with
  | hamp | hlt | hgt | hquot | hapos => exact List.all_iff_forall_prop.mp (by decide)
  | hother c hamp hlt hgt hquot hapos =>
    intro d hd
    rw [entity_of_ne hamp hlt hgt hquot hapos, List.mem_singleton]
    rintro rfl
    simp [delimiters, hlt, hgt, hquot, hapos] at hd

theorem notMem_escape {d : Char} (hd : d ∈ delimiters) (text : String) :
    d ∉ (escape text).toList := by
  rw [escape, String.toList_ofList, escapeChars_eq_flatMap]
  intro hmem
  obtain ⟨c, -, hc⟩ := List.mem_flatMap.mp hmem
  exact notMem_entity c d hd hc

/-! ## Character references -/

/-- The characters that have a name. -/
def named : List (List Char × Char) :=
  [("amp".toList, '&'), ("lt".toList, '<'), ("gt".toList, '>'), ("quot".toList, '"'),
    ("apos".toList, '\'')]

def ofCodePoint? (n : Nat) : Option Char :=
  if n.isValidChar then some (Char.ofNat n) else none

/-- The character that a reference stands for: a name, or a code point in decimal or hexadecimal
digits. -/
def referred? (name : List Char) : Option Char :=
  match name with
  | '#' :: 'x' :: digits | '#' :: 'X' :: digits =>
    if digits.isEmpty then none else (hexNumber? digits).bind ofCodePoint?
  | '#' :: digits =>
    if digits.isEmpty || !digits.all Char.isDigit then none else ofCodePoint? (decimalValue digits)
  | name => named.lookup name

/-- Reads a text with character references from left to right.  `open?` is what was read of a
reference since its ampersand; what turns out to be none stands for itself. -/
def decodeFrom : Option (List Char) → List Char → List Char
  | none, [] => []
  | some name, [] => '&' :: name
  | none, c :: rest => if c = '&' then decodeFrom (some []) rest else c :: decodeFrom none rest
  | some name, c :: rest =>
    if c = ';' then
      match referred? name with
      | some d => d :: decodeFrom none rest
      | none => '&' :: name ++ ';' :: decodeFrom none rest
    else if c = '&' then '&' :: name ++ decodeFrom (some []) rest
    else decodeFrom (some (name ++ [c])) rest

/-- The text that HTML text or an attribute value stands for. -/
def decode (text : String) : String :=
  String.ofList (decodeFrom none text.toList)

/-- An entity is decoded to its character, whatever follows. -/
theorem decodeFrom_entity_append (c : Char) (rest : List Char) :
    decodeFrom none (entity c ++ rest) = c :: decodeFrom none rest := by
  induction c using entity_cases with
  | hamp | hlt | hgt | hquot | hapos => rfl
  | hother c hamp hlt hgt hquot hapos =>
    simp [entity_of_ne hamp hlt hgt hquot hapos, decodeFrom, hamp]

theorem decodeFrom_escapeChars (cs : List Char) : decodeFrom none (escapeChars cs) = cs := by
  induction cs with
  | nil => rfl
  | cons c cs ih => rw [escapeChars_cons, decodeFrom_entity_append, ih]

/-- What was escaped is decoded to itself. -/
theorem decode_escape (text : String) : decode (escape text) = text := by
  rw [decode, escape, String.toList_ofList, decodeFrom_escapeChars, String.ofList_toList]

end ApiReference.Text.Html
