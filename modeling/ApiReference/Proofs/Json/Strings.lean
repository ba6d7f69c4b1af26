import ApiReference.Json.Reader
import Mathlib

/-!
# Reading JSON Strings Back

The contents of a string are written character by character, and reading undoes this one character
at a time.  So it does not matter which of its spellings each character has.
-/

namespace ApiReference.Json

open Text

/-- Reading the text yields the character and goes on behind it. -/
def SpellsChar (text : List Char) (c : Char) : Prop :=
  ∀ rest, stringBody (text ++ rest) = (stringBody rest).map fun (cs, rest) ↦ (c :: cs, rest)

theorem spellsChar_self {c : Char} (hquote : c ≠ '"') (hbackslash : c ≠ '\\')
    (hcontrol : ¬c.toNat < 0x20) : SpellsChar [c] c := by
  intro rest
  rw [List.singleton_append, stringBody]
  · rw [if_neg hcontrol]
  all_goals intros; simp_all

theorem spellsChar_short {c d : Char} (hu : c ≠ 'u') (h : shortEscape? c = some d) :
    SpellsChar ['\\', c] d := by
  intro rest
  show stringBody ('\\' :: c :: rest) = _
  rw [stringBody]
  · rw [h]
  all_goals intros; simp_all

theorem spellsChar_unicode {a b c d : Char} {unit : Nat}
    (h : hexNumber? [a, b, c, d] = some unit) (htrailing : isTrailing unit = false)
    (hleading : isLeading unit = false) : SpellsChar ['\\', 'u', a, b, c, d] (Char.ofNat unit) := by
  intro rest
  show stringBody ('\\' :: 'u' :: a :: b :: c :: d :: rest) = _
  rw [stringBody, h]
  simp only [htrailing, hleading, Bool.false_eq_true, if_false]

theorem hexNumber?_control : ∀ n < 0x20,
    hexNumber? ['0', '0', lowerHexDigit (n / 16), lowerHexDigit (n % 16)] = some n := by
  decide

theorem isLeading_control : ∀ n < 0x20, isLeading n = false ∧ isTrailing n = false := by
  decide

/-- A control character is spelled by its code point in four digits. -/
theorem spellsChar_control {c : Char} (hcontrol : c.toNat < 0x20) :
    SpellsChar ['\\', 'u', '0', '0', lowerHexDigit (c.toNat / 16), lowerHexDigit (c.toNat % 16)]
      c := by
  obtain ⟨hleading, htrailing⟩ := isLeading_control c.toNat hcontrol
  have h := spellsChar_unicode (hexNumber?_control c.toNat hcontrol) htrailing hleading
  rwa [Char.ofNat_toNat] at h

/-- Every character is read back from the way it is printed. -/
theorem spellsChar_escapeChar (c : Char) : SpellsChar (escapeChar c) c := by
  unfold escapeChar
  split
  case h_8 hquote hbackslash _ _ _ _ _ =>
    split
    case isTrue hcontrol => exact spellsChar_control hcontrol
    case isFalse hcontrol => exact spellsChar_self hquote hbackslash hcontrol
  all_goals exact spellsChar_short (by decide) rfl

/-- Reading the text and a closing quote yields the characters and stops behind the quote. -/
def SpellsString (text cs : List Char) : Prop :=
  ∀ rest, stringBody (text ++ '"' :: rest) = .ok (cs, rest)

/-- A text is spelled by spellings of its characters. -/
theorem spellsString_flatMap {write : Char → List Char} (hwrite : ∀ c, SpellsChar (write c) c)
    (cs : List Char) : SpellsString (cs.flatMap write) cs := by
  intro rest
  induction cs with
  | nil =>
    show stringBody ('"' :: rest) = _
    rw [stringBody]
  | cons c cs ih =>
    rw [List.flatMap_cons, List.append_assoc, hwrite c, ih]
    rfl

end ApiReference.Json
