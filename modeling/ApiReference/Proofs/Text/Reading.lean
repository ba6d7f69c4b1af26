import ApiReference.Proofs.Text.Form
import ApiReference.Proofs.Text.Lossy

/-!
# Reading Forms

Every text is a form, whatever it is written like: there is one list of names and values that it is
read as.  What that list is is said here without the decoder, which gives nothing else.
-/

namespace ApiReference.Text.Form

/-! ## Names and values -/

/-- Two hexadecimal digits begin the bytes. -/
def BeginsWithDigits (bytes : List UInt8) : Prop :=
  ∃ high low rest, bytes = high :: low :: rest ∧ (hexValue? high).isSome ∧ (hexValue? low).isSome

/-- What bytes with pluses and percent escapes stand for.  A percent sign without two digits behind
it stands for itself. -/
inductive Unescapes : List UInt8 → List UInt8 → Prop
  | nil : Unescapes [] []
  | plus {text bytes : List UInt8} (h : Unescapes text bytes) :
    Unescapes (0x2b :: text) (0x20 :: bytes)
  | escaped {high low h l : UInt8} {text bytes : List UInt8} (hhigh : hexValue? high = some h)
    (hlow : hexValue? low = some l) (htext : Unescapes text bytes) :
    Unescapes (0x25 :: high :: low :: text) ((h * 16 + l) :: bytes)
  | malformed {text bytes : List UInt8} (hdigits : ¬BeginsWithDigits text)
    (htext : Unescapes text bytes) : Unescapes (0x25 :: text) (0x25 :: bytes)
  | plain {b : UInt8} {text bytes : List UInt8} (hplus : b ≠ 0x2b) (hpercent : b ≠ 0x25)
    (htext : Unescapes text bytes) : Unescapes (b :: text) (b :: bytes)

/-- A percent sign without two digits stands for itself. -/
theorem unescape_malformed {text : List UInt8} (h : ¬BeginsWithDigits text) :
    unescape (0x25 :: text) = 0x25 :: unescape text := by
  rcases text with - | ⟨high, - | ⟨low, rest⟩⟩
  · rfl
  · rfl
  · rw [unescape, if_pos rfl]
    split
    case h_1 hhigh hlow =>
      exact absurd ⟨high, low, rest, rfl, by simp [hhigh], by simp [hlow]⟩ h
    case h_2 => rfl

theorem plain_of_ne {b : UInt8} (h : b ≠ 0x2b) : plain b = b :=
  if_neg h

theorem Unescapes.unescape_eq {text bytes : List UInt8} (h : Unescapes text bytes) :
    unescape text = bytes := by
  induction h with
  | nil => rfl
  | plus _ ih => rw [unescape_cons_of_ne (by decide), ih, Form.plain, if_pos rfl]
  | escaped hhigh hlow _ ih => rw [unescape_escape hhigh hlow, ih]
  | malformed hdigits _ ih => rw [unescape_malformed hdigits, ih]
  | plain hplus hpercent _ ih => rw [unescape_cons_of_ne hpercent, ih, plain_of_ne hplus]

/-- The decoder unescapes as described. -/
theorem unescapes_unescape (text : List UInt8) : Unescapes text (unescape text) := by
  induction hlength : text.length using Nat.strongRecOn generalizing text with
  | ind length ih =>
    cases text with
    | nil => exact .nil
    | cons b rest =>
      have hrest := ih rest.length (by simp at hlength; omega) rest rfl
      by_cases hpercent : b = 0x25
      · subst hpercent
        by_cases hdigits : BeginsWithDigits rest
        · obtain ⟨high, low, after, rfl, hhigh, hlow⟩ := hdigits
          obtain ⟨h, hhigh⟩ := Option.isSome_iff_exists.mp hhigh
          obtain ⟨l, hlow⟩ := Option.isSome_iff_exists.mp hlow
          rw [unescape_escape hhigh hlow]
          exact .escaped hhigh hlow (ih after.length (by simp at hlength; omega) after rfl)
        · rw [unescape_malformed hdigits]
          exact .malformed hdigits hrest
      · rw [unescape_cons_of_ne hpercent]
        by_cases hplus : b = 0x2b
        · rw [hplus, plain, if_pos rfl]
          exact .plus hrest
        · rw [plain_of_ne hplus]
          exact .plain hplus hpercent hrest

/-- Bytes are read as a name or a value. -/
def ReadsPart (bytes : List UInt8) (content : String) : Prop :=
  ∃ meant, Unescapes bytes meant ∧ Utf8.Reads meant content.toList

theorem readsPart_iff {bytes : List UInt8} {content : String} :
    ReadsPart bytes content ↔ decodePart bytes = content := by
  constructor
  · rintro ⟨meant, hmeant, hreads⟩
    rw [decodePart, hmeant.unescape_eq, Utf8.reads_iff.mp hreads, String.ofList_toList]
  · rintro rfl
    refine ⟨_, unescapes_unescape bytes, Utf8.reads_iff.mpr ?_⟩
    rw [decodePart, String.toList_ofList]

/-! ## Pieces and whole texts -/

/-- Bytes are read as a name and a value: what stands before and after the first equals sign, or the
whole and nothing where there is none. -/
inductive ReadsPair : List UInt8 → String × String → Prop
  | valued {name value : List UInt8} {pair : String × String} (hcut : 0x3d ∉ name)
    (hname : ReadsPart name pair.1) (hvalue : ReadsPart value pair.2) :
    ReadsPair (name ++ 0x3d :: value) pair
  | bare {name : List UInt8} {content : String} (hcut : 0x3d ∉ name)
    (hname : ReadsPart name content) : ReadsPair name (content, "")

theorem readsPair_iff {piece : List UInt8} {pair : String × String} :
    ReadsPair piece pair ↔ decodePair piece = pair := by
  constructor
  · intro h
    cases h with
    | valued hcut hname hvalue =>
      rw [decodePair, splitFirst_append hcut]
      exact Prod.ext (readsPart_iff.mp hname) (readsPart_iff.mp hvalue)
    | bare hcut hname =>
      rw [decodePair, splitFirst_of_notMem hcut]
      exact Prod.ext (readsPart_iff.mp hname) rfl
  · rintro rfl
    by_cases hcut : 0x3d ∈ piece
    · obtain ⟨name, value, rfl, hname⟩ := List.eq_append_cons_of_mem hcut
      rw [decodePair, splitFirst_append hname]
      exact .valued hname (readsPart_iff.mpr rfl) (readsPart_iff.mpr rfl)
    · rw [decodePair, splitFirst_of_notMem hcut]
      exact .bare hcut (readsPart_iff.mpr rfl)

/-- A text is read as names and values: its bytes are cut at the ampersands, and the pieces that are
not empty are read one by one. -/
def Reads (text : String) (pairs : List (String × String)) : Prop :=
  ∃ pieces, pieces ≠ [] ∧ (∀ piece ∈ pieces, 0x26 ∉ piece) ∧
    [0x26].intercalate pieces = Utf8.encode text.toList ∧
    List.Forall₂ ReadsPair (pieces.filter (· ≠ [])) pairs

/-- A text is decoded to the names and values that it is read as. -/
theorem reads_iff {text : String} {pairs : List (String × String)} :
    Reads text pairs ↔ decode text = pairs := by
  have hdecode {pieces : List (List UInt8)} (hne : pieces ≠ [])
      (hpieces : ∀ piece ∈ pieces, 0x26 ∉ piece)
      (htext : [0x26].intercalate pieces = Utf8.encode text.toList) :
      decode text = (pieces.filter (· ≠ [])).map decodePair := by
    rw [decode, ← htext, splitAll_intercalate hne hpieces]
    refine congrArg _ (List.filter_congr fun piece _ ↦ ?_)
    cases piece <;> rfl
  constructor
  · rintro ⟨pieces, hne, hpieces, htext, hpairs⟩
    rw [hdecode hne hpieces htext]
    exact List.forall₂_eq_eq_eq ▸
      List.forall₂_map_left_iff.mpr (hpairs.imp fun _ _ hpair ↦ readsPair_iff.mp hpair)
  · rintro rfl
    obtain ⟨pieces, hne, hpieces, htext⟩ := exists_intercalate 0x26 (Utf8.encode text.toList)
    refine ⟨pieces, hne, hpieces, htext, ?_⟩
    rw [hdecode hne hpieces htext]
    exact List.forall₂_map_right_iff.mpr (List.forall₂_same.mpr fun _ _ ↦ readsPair_iff.mpr rfl)

end ApiReference.Text.Form
