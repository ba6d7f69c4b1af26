import ApiReference.Proofs.Json.Reader
import ApiReference.Proofs.Toml.Numbers

/-!
# Natural Numbers Read Back

The digits of a natural number are read as that number, as long as it fits 64 bits and nothing
follows that could belong to a number.
-/

namespace ApiReference.Json

open Decimal Text

theorem le_ofDigitChars (cs : List Char) (start : Nat) :
    start ≤ Nat.ofDigitChars 10 cs start := by
  induction cs generalizing start with
  | nil => exact le_rfl
  | cons c cs ih =>
    rw [Nat.ofDigitChars_cons]
    calc
      start ≤ 10 * start + (c.toNat - '0'.toNat) := by omega
      _ ≤ _ := ih _

/-- Digits are taken to their end while the number that they spell fits. -/
theorem takeDigits_eq {cs : List Char} {start : Nat}
    (h : Nat.ofDigitChars 10 cs start < Word.limit) :
    takeDigits start cs = (Nat.ofDigitChars 10 cs start, []) := by
  induction cs generalizing start with
  | nil => rfl
  | cons c cs ih =>
    have hvalue : start * 10 + digitValue c = 10 * start + (c.toNat - '0'.toNat) := by
      rw [Nat.mul_comm]
      rfl
    rw [Nat.ofDigitChars_cons, ← hvalue] at h ⊢
    have hfits : ¬Word.limit ≤ start * 10 + digitValue c := by
      have hle := le_ofDigitChars cs (start * 10 + digitValue c)
      omega
    rw [takeDigits, if_neg hfits]
    exact ih h

namespace Reader

/-- What may follow a value is no part of a number. -/
theorem Ends.not_number {rest : List Char} (h : Ends rest) :
    ∀ c ∈ rest.head?, c.isDigit = false ∧ beginsFraction c = false := by
  have hmarks : ∀ c ∈ [',', ']', '\x7d'], c.isDigit = false ∧ beginsFraction c = false :=
    List.all_iff_forall_prop.mp (by decide)
  exact fun c hc ↦ hmarks c (h c hc)

/-- Digits are read up to what cannot belong to a number. -/
theorem on_digits {ds rest : List Char} (hds : ∀ c ∈ ds, c.isDigit = true) (hrest : Ends rest) :
    digits.on (ds ++ rest) = (.ok ds, rest) := by
  have hstop : rest.takeWhile Char.isDigit = [] ∧ rest.dropWhile Char.isDigit = rest := by
    cases rest with
    | nil => exact ⟨rfl, rfl⟩
    | cons c rest =>
      have hc : c.isDigit = false := (hrest.not_number c rfl).1
      simp [hc]
  rw [digits, on_bind_of_ok (on_remaining _), on_bind_of_ok (on_resume _ _), on_pure,
    List.takeWhile_append_of_pos hds, List.dropWhile_append_of_pos hds, hstop.1, hstop.2,
    List.append_nil]

theorem on_unsigned {n : Nat} (hn : n < Word.limit) {rest : List Char} (hrest : Ends rest) :
    (unsigned false).on (Nat.toDigits 10 n ++ rest) = (.ok (.integer n), rest) := by
  have hvalue : Nat.ofDigitChars 10 (Nat.toDigits 10 n) 0 = n :=
    Nat.ofDigitChars_toDigits (by decide) (by decide)
  have htaken : takeDigits 0 (Nat.toDigits 10 n) = (n, []) := by
    rw [takeDigits_eq (by rwa [hvalue]), hvalue]
  have hdigits := on_digits (Toml.isDigit_toDigits n) hrest
  have hdigit : rest.head?.any Char.isDigit = false :=
    (Option.any_eq_false _ _).mpr fun c hc ↦ (hrest.not_number c hc).1
  have hfraction : rest.head?.any beginsFraction = false :=
    (Option.any_eq_false _ _).mpr fun c hc ↦ (hrest.not_number c hc).2
  obtain ⟨d, ds, hds, hd⟩ := Toml.Reader.exists_cons_toDigits n
  -- only zero begins with a zero, and no digit follows it
  have hzero : ¬(d = '0' ∧ ((ds ++ rest).head?.any Char.isDigit) = true) := by
    rintro ⟨rfl, hnext⟩
    by_cases hn : n = 0
    · rw [hn] at hds
      cases hds
      rw [List.nil_append, hdigit] at hnext
      cases hnext
    · apply Toml.head?_toDigits_ne_zero hn
      rw [hds]
      rfl
  rw [hds] at htaken hdigits ⊢
  rw [unsigned, on_bind_of_ok (on_remaining _)]
  simp only [List.cons_append] at hdigits ⊢
  rw [if_neg (by simp [hd]), if_neg hzero, on_bind_of_ok hdigits]
  simp only [htaken]
  rw [if_neg (by simp), on_bind_of_ok (on_remaining _), if_neg (by simp [hfraction])]
  exact on_pure _ _

/-- The digits of a natural number that fits are read as it. -/
theorem on_number {n : Nat} (hn : n < Word.limit) {rest : List Char} (hrest : Ends rest) :
    number.on (Nat.toDigits 10 n ++ rest) = (.ok (.integer n), rest) := by
  have hunsigned := on_unsigned hn hrest
  obtain ⟨d, ds, hds, hd⟩ := Toml.Reader.exists_cons_toDigits n
  have hsign : d ≠ '-' := by
    rintro rfl
    cases hd
  rw [hds] at hunsigned ⊢
  rw [number, on_bind_of_ok (on_remaining _), if_neg (by simp [hsign]), hunsigned]

end Reader

end ApiReference.Json
