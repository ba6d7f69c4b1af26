import ApiReference.Proofs.Text.Split
import ApiReference.Proofs.Text.Utf8
import ApiReference.Text.Digits
import ApiReference.Text.Form

/-!
# Writing Forms

A list of names and values can be form-encoded in many ways, as every byte may be escaped and most
have to be.  Whichever way is taken, the names and values are decoded again.
-/

namespace ApiReference.Text.Form

/-! ## Ways to write names and values -/

/-- Whether a character may stand for itself in a form-encoded text. -/
def isUnreserved (c : Char) : Bool :=
  c.isAlphanum || c ∈ ['*', '-', '.', '_', '~']

/-- A text writes a byte: as a character that stands for itself, a space as a plus, and any byte as
a percent sign with two hexadecimal digits. -/
inductive WritesByte : List Char → UInt8 → Prop
  | plain {c : Char} (hc : isUnreserved c = true) : WritesByte [c] (UInt8.ofNat c.toNat)
  | space : WritesByte ['+'] 0x20
  | escaped {high low : Char} {h l : Nat} (hhigh : Text.hexValue? high = some h)
    (hlow : Text.hexValue? low = some l) : WritesByte ['%', high, low] (UInt8.ofNat (h * 16 + l))

/-- A text writes bytes one after the other. -/
inductive WritesBytes : List Char → List UInt8 → Prop
  | nil : WritesBytes [] []
  | cons {chunk text : List Char} {b : UInt8} {bytes : List UInt8} (hchunk : WritesByte chunk b)
    (htext : WritesBytes text bytes) : WritesBytes (chunk ++ text) (b :: bytes)

/-- A text writes a name or a value. -/
def WritesPart (text : List Char) (content : String) : Prop :=
  WritesBytes text (Utf8.encode content.toList)

/-- A text writes a name and a value with an equals sign between them, or a name alone for an empty
value. -/
inductive WritesPair : List Char → String × String → Prop
  | valued {name value : List Char} {pair : String × String} (hname : WritesPart name pair.1)
    (hvalue : WritesPart value pair.2) : WritesPair (name ++ '=' :: value) pair
  | bare {name : List Char} {content : String} (hname : WritesPart name content)
    (hne : name ≠ []) : WritesPair name (content, "")

/-- A text writes names and values with ampersands between them. -/
def Writes (text : String) (pairs : List (String × String)) : Prop :=
  ∃ pieces, List.Forall₂ WritesPair pieces pairs ∧ text.toList = ['&'].intercalate pieces

/-! ## Characters of a writing -/

/-- Whether a character may stand in the writing of a name or a value. -/
def isWritten (c : Char) : Bool :=
  isUnreserved c || c ∈ ['%', '+']

theorem toNat_lt_of_isWritten {c : Char} (h : isWritten c = true) : c.toNat < 128 := by
  simp only [isWritten, isUnreserved, Bool.or_eq_true, decide_eq_true_eq, List.mem_cons,
    List.not_mem_nil, or_false] at h
  rcases h with (h | rfl | rfl | rfl | rfl | rfl) | rfl | rfl
  · exact Utf8.toNat_lt_of_isAlphanum h
  all_goals decide

theorem toNat_lt_of_hexValue? {c : Char} {n : Nat} (h : Text.hexValue? c = some n) :
    c.toNat < 128 := by
  unfold Text.hexValue? at h
  split_ifs at h with hdigit hlower hupper <;>
    simp [Char.le_def, UInt32.le_iff_toNat_le] at * <;> omega

/-- A hexadecimal digit may stand for itself, and its byte has the value that it has. -/
theorem of_hexValue? {c : Char} {n : Nat} (h : Text.hexValue? c = some n) :
    isUnreserved c = true ∧ hexValue? (UInt8.ofNat c.toNat) = some (UInt8.ofNat n) := by
  have hforall := Utf8.forall_ascii (p := fun c ↦ ∀ value ∈ Text.hexValue? c,
    isUnreserved c = true ∧ hexValue? (UInt8.ofNat c.toNat) = some (UInt8.ofNat value))
    (by decide +kernel) (toNat_lt_of_hexValue? h)
  exact hforall n h

theorem WritesByte.isWritten {chunk : List Char} {b : UInt8} (h : WritesByte chunk b) :
    ∀ c ∈ chunk, isWritten c = true := by
  cases h with
  | plain hc => simp [Form.isWritten, hc]
  | space => simp [Form.isWritten]
  | escaped hhigh hlow => simp [Form.isWritten, of_hexValue? hhigh, of_hexValue? hlow]

theorem WritesBytes.isWritten {text : List Char} {bytes : List UInt8} (h : WritesBytes text bytes) :
    ∀ c ∈ text, isWritten c = true := by
  induction h with
  | nil => simp
  | cons hchunk _ ih => exact List.forall_mem_append.mpr ⟨hchunk.isWritten, ih⟩

theorem WritesPair.isWritten {piece : List Char} {pair : String × String}
    (h : WritesPair piece pair) : ∀ c ∈ piece, Form.isWritten c = true ∨ c = '=' := by
  cases h with
  | valued hname hvalue =>
    refine List.forall_mem_append.mpr ⟨fun c hc ↦ .inl (hname.isWritten c hc), ?_⟩
    exact List.forall_mem_cons.mpr ⟨.inr rfl, fun c hc ↦ .inl (hvalue.isWritten c hc)⟩
  | bare hname _ => exact fun c hc ↦ .inl (hname.isWritten c hc)

/-! ## Bytes of a writing -/

/-- Only a percent sign begins an escape. -/
theorem unescape_cons_of_ne {b : UInt8} (h : b ≠ 0x25) (rest : List UInt8) :
    unescape (b :: rest) = plain b :: unescape rest := by
  rcases rest with - | ⟨high, - | ⟨low, rest⟩⟩
  · simp [unescape]
  · simp [unescape]
  · rw [unescape, if_neg h]

theorem unescape_escape {high low h l : UInt8} (hhigh : hexValue? high = some h)
    (hlow : hexValue? low = some l) (rest : List UInt8) :
    unescape (0x25 :: high :: low :: rest) = (h * 16 + l) :: unescape rest := by
  rw [unescape, if_pos rfl, hhigh, hlow]

/-- Bytes that stand for themselves are no escape and no plus. -/
theorem plain_of_isUnreserved {c : Char} (h : isUnreserved c = true) :
    UInt8.ofNat c.toNat ≠ 0x25 ∧ plain (UInt8.ofNat c.toNat) = UInt8.ofNat c.toNat := by
  have hlt : c.toNat < 128 := toNat_lt_of_isWritten (by simp [isWritten, h])
  exact Utf8.forall_ascii (p := fun c ↦ isUnreserved c = true → UInt8.ofNat c.toNat ≠ 0x25 ∧
    plain (UInt8.ofNat c.toNat) = UInt8.ofNat c.toNat) (by decide +kernel) hlt h

/-- Each way of writing a byte is read as the byte. -/
theorem WritesByte.unescape_append {chunk : List Char} {b : UInt8} (h : WritesByte chunk b)
    (rest : List UInt8) :
    unescape (Utf8.encode chunk ++ rest) = b :: unescape rest := by
  rw [Utf8.encode_of_ascii fun c hc ↦ toNat_lt_of_isWritten (h.isWritten c hc)]
  cases h with
  | plain hc =>
    obtain ⟨hne, hplain⟩ := plain_of_isUnreserved hc
    rw [List.map_singleton, List.singleton_append, unescape_cons_of_ne hne, hplain]
  | space => exact unescape_cons_of_ne (by decide) rest
  | escaped hhigh hlow =>
    refine (unescape_escape (of_hexValue? hhigh).2 (of_hexValue? hlow).2 rest).trans ?_
    rw [UInt8.ofNat_add, UInt8.ofNat_mul]
    rfl

theorem WritesBytes.unescape {text : List Char} {bytes : List UInt8} (h : WritesBytes text bytes) :
    unescape (Utf8.encode text) = bytes := by
  induction h with
  | nil => rfl
  | cons hchunk _ ih => rw [Utf8.encode_append, hchunk.unescape_append, ih]

/-- What is decoded from a writing is what it writes. -/
theorem decodePart_encode {text : List Char} {content : String} (h : WritesPart text content) :
    decodePart (Utf8.encode text) = content := by
  rw [decodePart, h.unescape, Utf8.decodeLossy_encode, String.ofList_toList]

/-! ## Pieces -/

/-- The bytes of written characters are no separators. -/
theorem ne_separator_of_isWritten {c : Char} (h : isWritten c = true) :
    UInt8.ofNat c.toNat ≠ 0x26 ∧ UInt8.ofNat c.toNat ≠ 0x3d := by
  have hascii : ∀ n < 128, isWritten (Char.ofNat n) = true →
      UInt8.ofNat (Char.ofNat n).toNat ≠ 0x26 ∧ UInt8.ofNat (Char.ofNat n).toNat ≠ 0x3d := by
    decide +kernel
  exact Utf8.forall_ascii (p := fun c ↦ isWritten c = true → UInt8.ofNat c.toNat ≠ 0x26 ∧
    UInt8.ofNat c.toNat ≠ 0x3d) hascii (toNat_lt_of_isWritten h) h

theorem equals_notMem_encode {text : List Char} (h : ∀ c ∈ text, isWritten c = true) :
    0x3d ∉ Utf8.encode text := by
  rw [Utf8.encode_of_ascii fun c hc ↦ toNat_lt_of_isWritten (h c hc)]
  intro hmem
  obtain ⟨c, hc, heq⟩ := List.mem_map.mp hmem
  exact (ne_separator_of_isWritten (h c hc)).2 heq

/-- A written pair has no ampersand that would end it. -/
theorem WritesPair.ampersand_notMem_encode {piece : List Char} {pair : String × String}
    (h : WritesPair piece pair) : 0x26 ∉ Utf8.encode piece := by
  rw [Utf8.encode_of_ascii fun c hc ↦ (h.isWritten c hc).elim toNat_lt_of_isWritten
    fun heq ↦ heq ▸ by decide]
  intro hmem
  obtain ⟨c, hc, heq⟩ := List.mem_map.mp hmem
  rcases h.isWritten c hc with hwritten | rfl
  · exact (ne_separator_of_isWritten hwritten).1 heq
  · exact absurd heq (by decide)

/-- Each way of writing a pair is read as the pair. -/
theorem WritesPair.decodePair_encode {piece : List Char} {pair : String × String}
    (h : WritesPair piece pair) : decodePair (Utf8.encode piece) = pair := by
  cases h with
  | @valued name value _ hname hvalue =>
    have hcut : splitFirst 0x3d (Utf8.encode (name ++ '=' :: value)) =
        some (Utf8.encode name, Utf8.encode value) := by
      rw [Utf8.encode_append]
      exact splitFirst_append (equals_notMem_encode hname.isWritten) _
    rw [decodePair, hcut]
    exact Prod.ext (decodePart_encode hname) (decodePart_encode hvalue)
  | bare hname _ =>
    rw [decodePair, splitFirst_of_notMem (equals_notMem_encode hname.isWritten)]
    exact Prod.ext (decodePart_encode hname) rfl

theorem WritesPair.ne_nil {piece : List Char} {pair : String × String}
    (h : WritesPair piece pair) : piece ≠ [] := by
  cases h with
  | valued => simp
  | bare _ hne => exact hne

/-! ## Whole texts -/

/-- A writing holds nothing but written characters and separators. -/
theorem Writes.isWritten {text : String} {pairs : List (String × String)} (h : Writes text pairs) :
    ∀ c ∈ text.toList, isWritten c = true ∨ c = '=' ∨ c = '&' := by
  obtain ⟨pieces, hpieces, htext⟩ := h
  rw [htext]
  intro c hc
  rcases eq_or_exists_of_mem_intercalate hc with rfl | ⟨piece, hpiece, hmem⟩
  · exact .inr (.inr rfl)
  · have hchars : List.Forall₂ (fun piece pair ↦ (∀ c ∈ piece, Form.isWritten c = true ∨ c = '=') ∧
        WritesPair piece pair) pieces pairs :=
      hpieces.imp fun _ _ hwrites ↦ ⟨hwrites.isWritten, hwrites⟩
    have hforall := ((List.forall₂_and_left _ _).mp hchars).1
    exact (hforall piece hpiece c hmem).imp_right .inl

/-- The names and values that a text writes are decoded from it. -/
theorem decode_of_writes {text : String} {pairs : List (String × String)} (h : Writes text pairs) :
    decode text = pairs := by
  obtain ⟨pieces, hpieces, htext⟩ := h
  have hfacts : List.Forall₂ (fun piece pair ↦ (0x26 ∉ Utf8.encode piece ∧
      Utf8.encode piece ≠ []) ∧ decodePair (Utf8.encode piece) = pair) pieces pairs :=
    hpieces.imp fun _ _ hpiece ↦ ⟨⟨hpiece.ampersand_notMem_encode,
      Utf8.encode_ne_nil hpiece.ne_nil⟩, hpiece.decodePair_encode⟩
  obtain ⟨hcut, hpairs⟩ := (List.forall₂_and_left _ _).mp hfacts
  have hbytes : (splitAll 0x26 (Utf8.encode text.toList)).filter (!·.isEmpty) =
      pieces.map Utf8.encode := by
    have hjoined : Utf8.encode (['&'].intercalate pieces) =
        [0x26].intercalate (pieces.map Utf8.encode) := map_intercalate rfl Utf8.encode_append _ _
    rw [htext, hjoined]
    -- nothing is cut into one empty piece, which is left out
    by_cases hempty : pieces = []
    · rw [hempty]
      rfl
    · rw [splitAll_intercalate (by simpa using hempty)
        (List.forall_mem_map.mpr fun piece hpiece ↦ (hcut piece hpiece).1)]
      refine List.filter_eq_self.mpr (List.forall_mem_map.mpr fun piece hpiece ↦ ?_)
      simpa using (hcut piece hpiece).2
  rw [decode, hbytes, List.map_map]
  exact List.forall₂_eq_eq_eq ▸ List.forall₂_map_left_iff.mpr hpairs

end ApiReference.Text.Form
