import ApiReference.Proofs.Toml.Strings

/-!
# Integers Read Back

An integer that ends its line is read as its digits say.  It is no date, no time and no number with
a fraction, which are tried first.
-/

namespace ApiReference.Toml

open Decimal Text

/-! ## Digits -/

theorem head?_toDigits_ne_zero {n : Nat} (h : n ≠ 0) : (Nat.toDigits 10 n).head? ≠ some '0' := by
  induction n using Nat.strongRecOn with
  | ind n ih =>
    rw [Nat.toDigits_eq_if (by decide)]
    split
    case isTrue hlt =>
      have hdigits : ∀ n < 10, n ≠ 0 → [n.digitChar].head? ≠ some '0' := by
        decide
      exact hdigits n hlt h
    case isFalse hlt =>
      have htens : n / 10 ≠ 0 := by omega
      have hhead := ih (n / 10) (by omega) htens
      have hne : Nat.toDigits 10 (n / 10) ≠ [] := Nat.toDigits_ne_nil
      obtain ⟨d, ds, hds⟩ := List.exists_cons_of_ne_nil hne
      rw [hds] at hhead ⊢
      exact hhead

theorem isDigit_toDigits (n : Nat) : ∀ c ∈ Nat.toDigits 10 n, c.isDigit = true :=
  fun _ hc ↦ Nat.isDigit_of_mem_toDigits (by decide) (by decide) hc

/-- However the values of the digits are found, they add up in the same way. -/
theorem foldl_eq_ofDigitChars (value : Char → Nat) {cs : List Char}
    (h : ∀ c ∈ cs, value c = c.toNat - '0'.toNat) (start : Nat) :
    cs.foldl (fun n c ↦ n * 10 + value c) start = Nat.ofDigitChars 10 cs start := by
  induction cs generalizing start with
  | nil => rfl
  | cons c cs ih =>
    obtain ⟨hc, hcs⟩ := List.forall_mem_cons.mp h
    rw [List.foldl_cons, ih hcs, Nat.ofDigitChars_cons, hc, Nat.mul_comm]

theorem decimal?_toDigits (n : Nat) : decimal? (Nat.toDigits 10 n) = some n := by
  have hvalue : decimalValue (Nat.toDigits 10 n) = n := by
    rw [decimalValue, foldl_eq_ofDigitChars digitValue fun _ _ ↦ rfl,
      Nat.ofDigitChars_toDigits (by decide) (by decide)]
  have hdigits := isDigit_toDigits n
  obtain ⟨d, ds, hds⟩ := List.exists_cons_of_ne_nil (Nat.toDigits_ne_nil (n := n) (b := 10))
  rw [hds] at hdigits hvalue ⊢
  have hall : (d :: ds).all Char.isDigit = true := List.all_eq_true.mpr hdigits
  unfold decimal?
  split
  case h_1 rest hplus =>
    -- a digit is no plus sign
    cases hplus
    exact absurd (hdigits '+' List.mem_cons_self) (by decide)
  case h_2 => simp [hall, hvalue]

theorem hexValue?_of_isDigit {c : Char} (h : c.isDigit = true) :
    hexValue? c = some (c.toNat - '0'.toNat) := by
  simp only [Char.isDigit, Bool.and_eq_true, decide_eq_true_eq, ge_iff_le] at h
  exact if_pos h

namespace Reader

/-- Digits have the value that they were made of. -/
theorem valueIn_toDigits (n : Nat) : valueIn 10 (Nat.toDigits 10 n) = n := by
  have hvalue : ∀ c ∈ Nat.toDigits 10 n, (hexValue? c).getD 0 = c.toNat - '0'.toNat := by
    intro c hc
    rw [hexValue?_of_isDigit (isDigit_toDigits n c hc), Option.getD_some]
  rw [valueIn, foldl_eq_ofDigitChars _ hvalue, Nat.ofDigitChars_toDigits (by decide) (by decide)]

/-! ## What digits are not -/

/-- Digits up to the end of their line. -/
def DigitLine (text : List Char) : Prop :=
  ∃ ds rest, (∀ c ∈ ds, c.isDigit = true) ∧ text = ds ++ '\n' :: rest

theorem DigitLine.begins {text : List Char} (h : DigitLine text) :
    ∃ c tail, text = c :: tail ∧ (c = '\n' ∨ c.isDigit = true ∧ DigitLine tail) := by
  obtain ⟨ds, rest, hds, rfl⟩ := h
  cases ds with
  | nil => exact ⟨'\n', rest, rfl, .inl rfl⟩
  | cons d ds =>
    obtain ⟨hd, hds⟩ := List.forall_mem_cons.mp hds
    exact ⟨d, _, rfl, .inr ⟨hd, ds, rest, hds, rfl⟩⟩

theorem DigitLine.expectChar {text : List Char} (h : DigitLine text) {c : Char}
    (hdigit : c.isDigit = false) (hline : c ≠ '\n') : expectChar c text = none := by
  obtain ⟨d, tail, rfl, rfl | ⟨hd, -⟩⟩ := h.begins
  · exact if_neg hline.symm
  · exact if_neg (ne_of_test hd hdigit)

theorem DigitLine.of_fixedDigits {width value : Nat} {text after : List Char} (h : DigitLine text)
    (hread : fixedDigits width text = some (value, after)) : DigitLine after := by
  induction width generalizing text value with
  | zero =>
    cases hread
    exact h
  | succ width ih =>
    obtain ⟨c, tail, rfl, rfl | ⟨hc, htail⟩⟩ := h.begins
    · cases hread
    · rw [fixedDigits, if_pos hc] at hread
      obtain ⟨⟨inner, rest⟩, hinner, heq⟩ := Option.bind_eq_some_iff.mp hread
      cases heq
      exact ih htail hinner

/-- A mark is missed after the leading digits, so that nothing comes of what needs it. -/
theorem DigitLine.bind_fixedDigits {β : Type} {text : List Char} (h : DigitLine text) {mark : Char}
    (hdigit : mark.isDigit = false) (hline : mark ≠ '\n') (width : Nat)
    (next : Nat × List Char → List Char → Option β) :
    ((fixedDigits width text).bind fun result ↦
      (Toml.expectChar mark result.2).bind (next result)) = none := by
  cases hread : fixedDigits width text with
  | none => rfl
  | some result =>
    rw [Option.bind_some, (h.of_fixedDigits hread).expectChar hdigit hline, Option.bind_none]

/-- A line of digits is no time. -/
theorem DigitLine.run_datetime {text : List Char} (h : DigitLine text) :
    datetime.run text = none := by
  have hdate : (lift Date.read).run text = none :=
    h.bind_fixedDigits (by decide) (by decide) 4 _
  have htime : (lift Time.read).run text = none :=
    h.bind_fixedDigits (by decide) (by decide) 2 _
  rw [datetime, run_orElse_of_first_none _ _ hdate]
  exact run_bind_of_none _ htime

/-! ## Reading integers -/

theorem run_sign {c : Char} (hc : c.isDigit = true) (text : List Char) :
    sign.run (c :: text) = some (false, c :: text) := by
  rw [sign, run_peek_bind]
  split
  case h_1 heq => exact absurd (Option.some.inj heq) (ne_of_test hc (by decide))
  case h_2 heq => exact absurd (Option.some.inj heq) (ne_of_test hc (by decide))
  case h_3 => rfl

/-- The digits of a number, of which the first is given. -/
theorem exists_cons_toDigits (n : Nat) :
    ∃ d ds, Nat.toDigits 10 n = d :: ds ∧ d.isDigit = true := by
  have hne : Nat.toDigits 10 n ≠ [] := Nat.toDigits_ne_nil
  obtain ⟨d, ds, hds⟩ := List.exists_cons_of_ne_nil hne
  exact ⟨d, ds, hds, isDigit_toDigits n d (hds ▸ List.mem_cons_self)⟩

theorem run_underscored {d : Char} {ds : List Char} (hds : ∀ c ∈ d :: ds, c.isDigit = true)
    (rest : List Char) :
    (underscored Char.isDigit).run (d :: ds ++ '\n' :: rest) = some (d :: ds, '\n' :: rest) := by
  have htake : (takeWhile fun c ↦ c.isDigit || c == '_').run (d :: ds ++ '\n' :: rest) =
      some (d :: ds, '\n' :: rest) :=
    run_takeWhile (fun c hc ↦ by simp [hds c hc]) (by simp)
  have hplain : ∀ c ∈ d :: ds, c ≠ '_' := fun c hc ↦ ne_of_test (hds c hc) (by decide)
  rw [underscored, run_bind_of_some htake]
  dsimp only
  rw [if_neg ?valid, List.filter_eq_self.mpr fun c hc ↦ bne_iff_ne.mpr (hplain c hc)]
  · rfl
  case valid =>
    rw [Bool.not_eq_true, Bool.or_eq_false_iff, Bool.or_eq_false_iff]
    refine ⟨⟨?_, ?_⟩, List.any_eq_false.mpr fun pair hpair ↦ ?_⟩
    · simp [hds d List.mem_cons_self]
    · rw [List.getLast?_eq_some_getLast (List.cons_ne_nil d ds)]
      simp [hds _ (List.getLast_mem (List.cons_ne_nil d ds))]
    · simp [hplain _ (List.of_mem_zip hpair).1]

theorem run_wholeDigits (n : Nat) (rest : List Char) :
    wholeDigits.run (Nat.toDigits 10 n ++ '\n' :: rest) =
      some (Nat.toDigits 10 n, '\n' :: rest) := by
  rw [wholeDigits, run_peek_bind]
  by_cases hzero : n = 0
  · rw [hzero]
    rfl
  · obtain ⟨d, ds, hds, -⟩ := exists_cons_toDigits n
    have hhead := head?_toDigits_ne_zero hzero
    have hdigits := isDigit_toDigits n
    rw [hds] at hhead hdigits ⊢
    exact (congrArg (StateT.run · _) (if_neg hhead)).trans (run_underscored hdigits rest)

/-- Digits alone are no double. -/
theorem run_decimalDouble (n : Nat) (rest : List Char) :
    decimalDouble.run (Nat.toDigits 10 n ++ '\n' :: rest) = none := by
  obtain ⟨d, ds, hds, hd⟩ := exists_cons_toDigits n
  have hsign := run_sign hd (ds ++ '\n' :: rest)
  have hwhole := run_wholeDigits n rest
  rw [hds] at hwhole ⊢
  rw [decimalDouble, List.cons_append, run_bind_of_some hsign]
  exact (run_bind_of_some hwhole).trans rfl

theorem run_specialDouble {c : Char} (hc : c.isDigit = true) (rest : List Char) :
    specialDouble.run (c :: rest) = none := by
  have hword {w : Char} {ws : List Char} (hw : w.isDigit = false) :
      (chars (w :: ws)).run (c :: rest) = none :=
    run_chars_eq_none (by simp [(ne_of_test hc hw).symm])
  rw [specialDouble, run_bind_of_some (run_sign hc rest),
    run_orElse_of_first_none _ _ (hword (by decide))]
  exact run_bind_of_none _ (hword (by decide))

/-- A number in base ten is not marked as one in another base. -/
theorem run_mark_digitLine {text : List Char} (h : DigitLine text) {mark : Char}
    (hmark : mark.isDigit = false) (hline : mark ≠ '\n') :
    (chars ['0', mark]).run text = none := by
  refine run_chars_eq_none ?_
  obtain ⟨c, tail, rfl, rfl | ⟨hc, htail⟩⟩ := h.begins
  · simp
  · obtain ⟨d, rest, rfl, rfl | ⟨hd, -⟩⟩ := htail.begins
    · simp [hline]
    · simp [(ne_of_test hd hmark).symm]

/-- The digits of a natural number that fits are read as it. -/
theorem run_integer {n : Nat} (hn : n < Word.signedLimit) (rest : List Char) :
    integer.run (Nat.toDigits 10 n ++ '\n' :: rest) = some (.integer n, '\n' :: rest) := by
  have hline : DigitLine (Nat.toDigits 10 n ++ '\n' :: rest) :=
    ⟨_, rest, isDigit_toDigits n, rfl⟩
  obtain ⟨d, ds, hds, hd⟩ := exists_cons_toDigits n
  have hsign := run_sign hd (ds ++ '\n' :: rest)
  rw [← List.cons_append, ← hds] at hsign
  rw [integer,
    run_orElse_of_first_none _ _ (run_mark_digitLine hline (by decide) (by decide)),
    run_orElse_of_first_none _ _ (run_mark_digitLine hline (by decide) (by decide)),
    run_orElse_of_first_none _ _ (run_mark_digitLine hline (by decide) (by decide)),
    integer.decimal, run_bind_of_some hsign, run_bind_of_some (run_wholeDigits n rest),
    valueIn_toDigits]
  have hlimits : -(Word.signedLimit : Int) ≤ n ∧ (n : Int) < Word.signedLimit := by
    omega
  exact congrArg (fun reader ↦ StateT.run reader ('\n' :: rest)) (if_pos hlimits)

/-- An integer that is not negative is read back at the end of its line. -/
theorem run_scalar_toDigits {n : Nat} (hn : n < Word.signedLimit) (rest : List Char) :
    ∃ c tail, Nat.toDigits 10 n ++ '\n' :: rest = c :: tail ∧ c.isDigit = true ∧
      (scalar c).run (c :: tail) = some (.integer n, '\n' :: rest) := by
  have hline : DigitLine (Nat.toDigits 10 n ++ '\n' :: rest) :=
    ⟨_, rest, isDigit_toDigits n, rfl⟩
  have hinteger := run_integer hn rest
  have hdouble := run_decimalDouble n rest
  obtain ⟨d, ds, hds, hd⟩ := exists_cons_toDigits n
  rw [hds, List.cons_append] at hline hinteger hdouble ⊢
  refine ⟨d, _, rfl, hd, ?_⟩
  have hne {c : Char} (hc : c.isDigit = false) : d ≠ c := ne_of_test hd hc
  -- dates, numbers with a fraction and their special names are tried before integers
  rw [scalar, if_neg (by simp [hne]), if_neg (hne (by decide)), if_neg (hne (by decide)),
    if_neg (by simp [hne]), if_pos (.inr (.inr hd)), run_orElse_of_none _ hline.run_datetime,
    run_orElse_of_none _ hdouble, run_orElse_of_none _ (run_specialDouble hd _)]
  exact hinteger

end Reader

end ApiReference.Toml
