import ApiReference.Text.Utf8
import Mathlib

/-!
# Decoding What Was Encoded

The bytes of a character are decoded to the character, whatever follows them, and so are the bytes
of a text.
-/

namespace ApiReference.Text.Utf8

/-! ## Characters of one byte -/

/-- What holds of the first 128 characters holds of every character below the 128th. -/
theorem forall_ascii {p : Char → Prop} (h : ∀ n < 128, p (Char.ofNat n)) {c : Char}
    (hc : c.toNat < 128) : p c :=
  Char.ofNat_toNat c ▸ h c.toNat hc

theorem toNat_lt_of_isAlphanum {c : Char} (h : c.isAlphanum = true) : c.toNat < 128 := by
  simp [Char.isAlphanum, Char.isAlpha, Char.isUpper, Char.isLower, Char.isDigit,
    UInt32.le_iff_toNat_le] at h
  omega

/-- Characters of one byte are encoded as their code points. -/
theorem encode_of_ascii {cs : List Char} (h : ∀ c ∈ cs, c.toNat < 128) :
    encode cs = cs.map fun c ↦ UInt8.ofNat c.toNat := by
  rw [← List.flatMap_pure_eq_map]
  refine List.flatMap_congr fun c hc ↦ ?_
  exact if_pos (Nat.le_of_lt_succ (h c hc))

/-! ## Bytes of one character -/

/-- Six bits in a byte that continues a character are read onto those before them. -/
theorem finish_continuation {bits : Nat} (hbits : bits < 64) {low high : UInt8}
    (hlow : low.toNat ≤ bits + 128) (hhigh : bits + 128 ≤ high.toNat) (share following : Nat)
    (rest : List UInt8) : finish share (following + 1) low high (UInt8.ofNat (bits + 128) :: rest) =
      finish (share * 64 + bits) following 0x80 0xbf rest := by
  have hbyte : (UInt8.ofNat (bits + 128)).toNat = bits + 128 :=
    UInt8.toNat_ofNat_of_lt' (by omega : bits + 128 < 256)
  rw [finish, if_pos, hbyte, Nat.add_sub_cancel]
  rw [UInt8.le_iff_toNat_le, UInt8.le_iff_toNat_le, hbyte]
  exact ⟨hlow, hhigh⟩

theorem lead?_one {n : Nat} (h : n < 128) :
    lead? (UInt8.ofNat n) = some ⟨n, 0, 0x80, 0xbf⟩ := by
  have hbyte : (UInt8.ofNat n).toNat = n := UInt8.toNat_ofNat_of_lt' (by omega : n < 256)
  rw [lead?, if_pos, hbyte]
  rw [UInt8.lt_iff_toNat_lt, hbyte]
  exact h

theorem lead?_two {share : Nat} (hlow : 2 ≤ share) (hhigh : share < 32) :
    lead? (UInt8.ofNat (share + 192)) = some ⟨share, 1, 0x80, 0xbf⟩ := by
  interval_cases share <;> rfl

theorem lead?_three {share : Nat} (h : share < 16) : lead? (UInt8.ofNat (share + 224)) =
    some ⟨share, 2, if share = 0 then 0xa0 else 0x80, if share = 13 then 0x9f else 0xbf⟩ := by
  interval_cases share <;> rfl

theorem lead?_four {share : Nat} (h : share < 5) : lead? (UInt8.ofNat (share + 240)) =
    some ⟨share, 3, if share = 0 then 0x90 else 0x80, if share = 4 then 0x8f else 0xbf⟩ := by
  interval_cases share <;> rfl

/-- The code points of characters: no surrogates, and none beyond the last plane. -/
theorem toNat_val_lt (c : Char) :
    c.val.toNat < 0xd800 ∨ 0xdfff < c.val.toNat ∧ c.val.toNat < 0x110000 :=
  c.valid

/-- The bytes of a character are read as the character, whatever follows them. -/
theorem next_utf8EncodeChar (c : Char) : ∃ b tail, String.utf8EncodeChar c = b :: tail ∧
    ∀ rest, next b (tail ++ rest) = (some c, rest) := by
  have hvalid := toNat_val_lt c
  have hchar : Char.ofNat c.val.toNat = c := Char.ofNat_toNat c
  rw [String.utf8EncodeChar]
  generalize c.val.toNat = v at hvalid hchar
  -- one case for each number of bytes, whose bits are put together again
  split_ifs with hone htwo hthree
  · refine ⟨_, [], rfl, fun rest ↦ ?_⟩
    rw [next, lead?_one (by omega)]
    exact Prod.ext (congrArg some hchar) rfl
  · refine ⟨_, _, rfl, fun rest ↦ ?_⟩
    rw [next, lead?_two (by omega) (by omega)]
    dsimp only [List.cons_append, List.nil_append]
    rw [finish_continuation (by omega) (by simp) (by simp; omega), finish,
      show v / 64 % 32 * 64 + v % 64 = v by omega, hchar]
  · refine ⟨_, _, rfl, fun rest ↦ ?_⟩
    rw [next, lead?_three (by omega)]
    dsimp only [List.cons_append, List.nil_append]
    rw [finish_continuation (by omega) (by split <;> simp; omega) (by split <;> simp <;> omega),
      finish_continuation (by omega) (by simp) (by simp; omega), finish,
      show (v / 4096 % 16 * 64 + v / 64 % 64) * 64 + v % 64 = v by omega, hchar]
  · refine ⟨_, _, rfl, fun rest ↦ ?_⟩
    have hshare : v / 262144 % 8 < 5 := by omega
    rw [next, lead?_four hshare]
    dsimp only [List.cons_append, List.nil_append]
    rw [finish_continuation (by omega) (by split <;> simp; omega) (by split <;> simp <;> omega),
      finish_continuation (by omega) (by simp) (by simp; omega),
      finish_continuation (by omega) (by simp) (by simp; omega), finish,
      show ((v / 262144 % 8 * 64 + v / 4096 % 64) * 64 + v / 64 % 64) * 64 + v % 64 = v by omega,
      hchar]

/-! ## Texts -/

theorem encode_append (cs ds : List Char) : encode (cs ++ ds) = encode cs ++ encode ds :=
  List.flatMap_append

theorem length_append (cs ds : List Char) : length (cs ++ ds) = length cs + length ds := by
  rw [length, encode_append, List.length_append, length, length]

/-- A text in which each character takes one byte takes as many bytes as it has characters. -/
theorem length_of_single {cs : List Char} (h : ∀ c ∈ cs, length [c] = 1) :
    length cs = cs.length := by
  induction cs with
  | nil => rfl
  | cons c cs ih =>
    obtain ⟨hc, hcs⟩ := List.forall_mem_cons.mp h
    calc
      length (c :: cs) = length [c] + length cs := length_append [c] cs
      _ = 1 + cs.length := by rw [hc, ih hcs]
      _ = (c :: cs).length := Nat.add_comm 1 cs.length

theorem encode_ne_nil {cs : List Char} (h : cs ≠ []) : encode cs ≠ [] := by
  obtain ⟨c, rest, rfl⟩ := List.exists_cons_of_ne_nil h
  obtain ⟨b, tail, hbytes, -⟩ := next_utf8EncodeChar c
  simp [encode, hbytes]

theorem length_toList (text : String) : length text.toList = text.utf8ByteSize := by
  have hbytes : (encode text.toList).toByteArray = text.toByteArray := by
    rw [encode, ← List.utf8Encode, ← String.toByteArray_ofList, String.ofList_toList]
  calc
    length text.toList = (encode text.toList).toByteArray.size := List.size_toByteArray.symm
    _ = text.toByteArray.size := by rw [hbytes]
    _ = text.utf8ByteSize := String.size_toByteArray

/-- Encoded characters are scanned one by one. -/
theorem scan_encode (cs : List Char) : scan (encode cs) = cs.map some := by
  induction cs with
  | nil => rw [encode, List.flatMap_nil, scan, List.map_nil]
  | cons c cs ih =>
    obtain ⟨b, tail, hbytes, hnext⟩ := next_utf8EncodeChar c
    rw [encode, List.flatMap_cons, hbytes, List.cons_append, scan, hnext]
    exact congrArg (some c :: ·) ih

/-- Encoded characters are decoded again. -/
theorem decode?_encode (cs : List Char) : decode? (encode cs) = some cs := by
  rw [decode?, scan_encode, List.mapM_map]
  exact List.mapM_pure.trans (congrArg some (List.map_id cs))

/-- Nothing is lost of encoded characters. -/
theorem decodeLossy_encode (cs : List Char) : decodeLossy (encode cs) = cs := by
  rw [decodeLossy, scan_encode, List.map_map]
  exact List.map_id cs

end ApiReference.Text.Utf8
