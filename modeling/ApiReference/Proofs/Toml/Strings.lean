import ApiReference.Toml.Printer
import ApiReference.Toml.Reader
import Mathlib

/-!
# Strings Read Back

A string is read as what was written, in every style.  In a string of several lines quotes are read
in runs, so that what stands in such a string is followed together with the quotes before it.
-/

namespace ApiReference.Toml

open Text

/-- Characters that a test tells apart are different. -/
theorem ne_of_test {test : Char → Bool} {c d : Char} (hc : test c = true) (hd : test d = false) :
    c ≠ d :=
  ne_of_apply_ne test (by rw [hc, hd]; decide)

namespace Reader

variable {α β : Type} {text rest : List Char}

/-! ## Steps -/

theorem run_bind_of_some {reader : Reader α} {next : α → Reader β} {a : α}
    (h : reader.run text = some (a, rest)) : (reader >>= next).run text = (next a).run rest := by
  rw [StateT.run_bind, h]
  rfl

theorem run_map_of_some {reader : Reader α} (f : α → β) {a : α}
    (h : reader.run text = some (a, rest)) : (f <$> reader).run text = some (f a, rest) := by
  rw [StateT.run_map, h]
  rfl

theorem run_bind_of_none {reader : Reader α} (next : α → Reader β) (h : reader.run text = none) :
    (reader >>= next).run text = none := by
  rw [StateT.run_bind, h]
  rfl

theorem run_orElse_of_some {reader : Reader α} (other : Reader α) {result : α × List Char}
    (h : reader.run text = some result) : (reader <|> other).run text = some result := by
  show (reader.run text <|> other.run text) = some result
  rw [h]
  rfl

theorem run_orElse_of_none {reader : Reader α} (other : Reader α)
    (h : reader.run text = none) : (reader <|> other).run text = other.run text := by
  show (reader.run text <|> other.run text) = other.run text
  rw [h]
  rfl

theorem run_get_bind (next : List Char → Reader β) :
    (get >>= next).run text = (next text).run text :=
  rfl

theorem run_peek_bind (next : Option Char → Reader β) :
    (peek >>= next).run text = (next text.head?).run text :=
  rfl

theorem run_fuel_bind (next : Nat → Reader β) :
    (fuel >>= next).run text = (next (text.length + 1)).run text :=
  rfl

theorem run_tail_bind (next : Unit → Reader β) (c : Char) (rest : List Char) :
    (modify List.tail >>= next).run (c :: rest) = (next ()).run rest :=
  rfl

theorem run_lift_bind {value? : Option α} {a : α} (next : α → Reader β) (h : value? = some a) :
    ((liftM value? : Reader α) >>= next).run text = (next a).run text := by
  rw [h]
  rfl

/-- An alternative whose first step fails is passed over. -/
theorem run_orElse_of_first_none {first : Reader α} (next : α → Reader β) (other : Reader β)
    (h : first.run text = none) : ((first >>= next) <|> other).run text = other.run text :=
  run_orElse_of_none _ (run_bind_of_none _ h)

theorem run_char (c : Char) (rest : List Char) : (char c).run (c :: rest) = some ((), rest) := by
  have hsome : expectChar c (c :: rest) = some rest := if_pos rfl
  rw [char, run_get_bind, run_lift_bind _ hsome]
  rfl

theorem run_char_of_ne {c d : Char} (h : d ≠ c) (rest : List Char) :
    (char c).run (d :: rest) = none := by
  have hnone : expectChar c (d :: rest) = none := if_neg h
  rw [char, run_get_bind, hnone]
  rfl

theorem run_chars (cs rest : List Char) : (chars cs).run (cs ++ rest) = some ((), rest) := by
  induction cs with
  | nil => rfl
  | cons c cs ih => exact (run_bind_of_some (run_char c _)).trans ih

theorem run_chars_eq_none {cs : List Char} (h : ¬cs <+: text) : (chars cs).run text = none := by
  induction cs generalizing text with
  | nil => exact absurd List.nil_prefix h
  | cons c cs ih =>
    cases text with
    | nil => rfl
    | cons d text =>
      by_cases hd : d = c
      · rw [hd] at h ⊢
        exact (run_bind_of_some (run_char c text)).trans
          (ih fun hprefix ↦ h (List.cons_prefix_cons.mpr ⟨rfl, hprefix⟩))
      · exact run_bind_of_none _ (run_char_of_ne hd text)

theorem run_takeWhile {test : Char → Bool} {cs : List Char} (hcs : ∀ c ∈ cs, test c = true)
    (hrest : ∀ c ∈ rest.head?, test c = false) :
    (takeWhile test).run (cs ++ rest) = some (cs, rest) := by
  have htake : (cs ++ rest).takeWhile test = cs := by
    rw [List.takeWhile_append_of_pos hcs]
    cases rest with
    | nil => simp
    | cons c rest => simp [hrest c rfl]
  have hdrop : (cs ++ rest).dropWhile test = rest := by
    rw [List.dropWhile_append_of_pos hcs]
    cases rest with
    | nil => simp
    | cons c rest => simp [hrest c rfl]
  show some ((cs ++ rest).takeWhile test, (cs ++ rest).dropWhile test) = some (cs, rest)
  rw [htake, hdrop]

/-! ## Escapes -/

/-- A chunk is an escape that stands for a character and does not end a line. -/
def Escapes (chunk : List Char) (c : Char) : Prop :=
  ∃ tail, chunk = '\\' :: tail ∧
    ∀ rest, escape.run (tail ++ rest) = some (c, rest) ∧ endsLine (tail ++ rest) = false

theorem run_codePoint_control {n : Nat} (h : n < 0x80) (rest : List Char) :
    (codePoint 4).run ('0' :: '0' :: upperHexDigit (n / 16) :: upperHexDigit (n % 16) :: rest) =
      some (Char.ofNat n, rest) := by
  have hvalue : ∀ n < 0x80,
      hexNumber? ['0', '0', upperHexDigit (n / 16), upperHexDigit (n % 16)] = some n := by
    decide +kernel
  have hvalid : n.isValidChar := .inl (by omega)
  rw [codePoint, run_get_bind]
  refine (run_lift_bind _ (hvalue n h)).trans ?_
  rw [if_pos ⟨by simp, hvalid⟩]
  rfl

theorem escapes_unicode {c : Char} (h : c.toNat < 0x80) :
    Escapes ['\\', 'u', '0', '0', upperHexDigit (c.toNat / 16), upperHexDigit (c.toNat % 16)]
      c := by
  refine ⟨_, rfl, fun rest ↦ ⟨?_, rfl⟩⟩
  have hread := run_codePoint_control h rest
  rw [Char.ofNat_toNat] at hread
  exact hread

theorem escapes_quote : Escapes ['\\', '"'] '"' :=
  ⟨['"'], rfl, fun _ ↦ ⟨rfl, rfl⟩⟩

/-- A character other than a quote is written as an escape or as itself. -/
theorem escapeChar_cases (long : Bool) (c : Char) :
    Escapes (escapeChar long c) c ∨ escapeChar long c = [c] ∧ c ≠ '\\' ∧
      (isStringChar c = true ∨ long = true ∧ c = '\n') := by
  unfold escapeChar
  split
  case h_1 => exact .inl ⟨['\\'], rfl, fun _ ↦ ⟨rfl, rfl⟩⟩
  case h_2 => exact .inl ⟨['b'], rfl, fun _ ↦ ⟨rfl, rfl⟩⟩
  case h_3 => exact .inl ⟨['t'], rfl, fun _ ↦ ⟨rfl, rfl⟩⟩
  case h_4 =>
    cases long with
    | true => exact .inr ⟨rfl, by decide, .inr ⟨rfl, rfl⟩⟩
    | false => exact .inl ⟨['n'], rfl, fun _ ↦ ⟨rfl, rfl⟩⟩
  case h_5 => exact .inl ⟨['f'], rfl, fun _ ↦ ⟨rfl, rfl⟩⟩
  case h_6 => exact .inl ⟨['r'], rfl, fun _ ↦ ⟨rfl, rfl⟩⟩
  case h_7 _ hbackslash _ _ _ _ _ =>
    by_cases hcontrol : (c.toNat < 0x20 || c.toNat == 0x7f) = true
    · rw [if_pos hcontrol]
      simp only [Bool.or_eq_true, decide_eq_true_eq, beq_iff_eq] at hcontrol
      exact .inl (escapes_unicode (by omega))
    · rw [if_neg hcontrol]
      simp only [Bool.or_eq_true, decide_eq_true_eq, beq_iff_eq, not_or] at hcontrol
      refine .inr ⟨rfl, hbackslash, .inl ?_⟩
      simp [isStringChar, isCommentChar]
      omega

/-! ## Strings on one line -/

theorem run_go_escape {chunk : List Char} {c : Char} (h : Escapes chunk c) {fuel : Nat}
    {cs : List Char} (hgo : (basicString.go fuel).run text = some (cs, rest)) :
    (basicString.go (fuel + 1)).run (chunk ++ text) = some (c :: cs, rest) := by
  obtain ⟨tail, rfl, hread⟩ := h
  show (escape >>= fun c ↦ (c :: ·) <$> basicString.go fuel).run (tail ++ text) = _
  rw [run_bind_of_some (hread text).1, run_map_of_some _ hgo]

theorem run_go_stringChar {c : Char} (hc : isStringChar c = true) (hquote : c ≠ '"')
    (hbackslash : c ≠ '\\') {fuel : Nat} {cs : List Char}
    (hgo : (basicString.go fuel).run text = some (cs, rest)) :
    (basicString.go (fuel + 1)).run (c :: text) = some (c :: cs, rest) := by
  rw [basicString.go, run_get_bind]
  refine (run_lift_bind _ rfl).trans ?_
  rw [run_tail_bind]
  split
  case h_1 => exact absurd rfl hquote
  case h_2 => exact absurd rfl hbackslash
  case h_3 =>
    rw [if_pos hc]
    exact run_map_of_some (c :: ·) hgo

theorem run_basicString_go (cs rest : List Char) (run : Nat) {fuel : Nat}
    (hfuel : (escapeFrom false run cs).length < fuel) :
    (basicString.go fuel).run (escapeFrom false run cs ++ '"' :: rest) = some (cs, rest) := by
  -- on one line every quote is escaped, so the run of quotes before it may be any
  induction cs generalizing run fuel with
  | nil =>
    obtain ⟨fuel, rfl⟩ := Nat.exists_eq_succ_of_ne_zero (Nat.ne_zero_of_lt hfuel)
    rfl
  | cons c cs ih =>
    obtain ⟨fuel, rfl⟩ := Nat.exists_eq_succ_of_ne_zero (Nat.ne_zero_of_lt hfuel)
    by_cases hquote : c = '"'
    · have htext : escapeFrom false run (c :: cs) = ['\\', '"'] ++ escapeFrom false 0 cs := by
        rw [escapeFrom, if_pos hquote]
        rfl
      rw [htext] at hfuel ⊢
      rw [hquote, List.append_assoc]
      exact run_go_escape escapes_quote (ih 0 (by simp at hfuel; omega))
    · have htext : escapeFrom false run (c :: cs) =
          escapeChar false c ++ escapeFrom false 0 cs := by
        rw [escapeFrom, if_neg hquote]
      rw [htext] at hfuel ⊢
      rw [List.append_assoc]
      rcases escapeChar_cases false c with hescape | ⟨hself, hbackslash, hchar | ⟨hlong, -⟩⟩
      · have hpos : 0 < (escapeChar false c).length := by
          obtain ⟨tail, htail, -⟩ := hescape
          simp [htail]
        rw [List.length_append] at hfuel
        exact run_go_escape hescape (ih 0 (by omega))
      · rw [hself] at hfuel ⊢
        exact run_go_stringChar hchar hquote hbackslash (ih 0 (by simp at hfuel; omega))
      · cases hlong

theorem run_basicString (cs rest : List Char) :
    basicString.run (escapeFrom false 0 cs ++ '"' :: rest) = some (cs, rest) := by
  rw [basicString, run_fuel_bind]
  exact run_basicString_go cs rest 0 (by simp)

theorem run_literalString {cs : List Char} (hcs : ∀ c ∈ cs, c ≠ '\'' ∧ isStringChar c = true)
    (rest : List Char) : literalString.run (cs ++ '\'' :: rest) = some (cs, rest) := by
  have htake : (takeWhile fun c ↦ c != '\'' && isStringChar c).run (cs ++ '\'' :: rest) =
      some (cs, '\'' :: rest) :=
    run_takeWhile (fun c hc ↦ by simpa using hcs c hc) (by simp)
  rw [literalString, run_bind_of_some htake, run_bind_of_some (run_char _ rest)]
  rfl

/-! ## Strings of several lines -/

section

variable {quote : Char} {escapes : Bool}

/-- A chunk is read as one character of a string of several lines. -/
structure LongChar (quote : Char) (escapes : Bool) (chunk : List Char) (c : Char) : Prop where
  begins : ∃ d tail, chunk = d :: tail ∧ d ≠ quote ∧ d ≠ '\r' ∧ (d = '\n' → c = '\n')
  read : ∀ {fuel : Nat} {text rest cs : List Char},
    (longString.go quote escapes fuel).run text = some (cs, rest) →
      (longString.go quote escapes (fuel + 1)).run (chunk ++ text) = some (c :: cs, rest)

/-- The body of a string of several lines that is read as `cs`, so many quotes standing before
it. -/
inductive LongBody (quote : Char) (escapes : Bool) : Nat → List Char → List Char → Prop
  | nil {run : Nat} (hrun : run ≤ 2) : LongBody quote escapes run [] []
  | quote {run : Nat} {text cs : List Char} (hrest : LongBody quote escapes (run + 1) text cs) :
    LongBody quote escapes run (quote :: text) (quote :: cs)
  | char {run : Nat} {chunk text cs : List Char} {c : Char} (hrun : run ≤ 2)
    (hchunk : LongChar quote escapes chunk c) (hrest : LongBody quote escapes 0 text cs) :
    LongBody quote escapes run (chunk ++ text) (c :: cs)

theorem longChar_escape {chunk : List Char} {c : Char} (h : Escapes chunk c)
    (hquote : quote ≠ '\\') : LongChar quote true chunk c := by
  obtain ⟨tail, rfl, hread⟩ := h
  refine ⟨⟨'\\', tail, rfl, hquote.symm, by decide, by simp⟩, fun {fuel text rest cs} hgo ↦ ?_⟩
  rw [longString.go, run_get_bind]
  refine (run_lift_bind _ rfl).trans ?_
  rw [if_neg hquote.symm, if_neg (by decide), if_pos ⟨rfl, rfl⟩]
  rw [List.cons_append, run_tail_bind, run_get_bind, if_neg (by simp [hread])]
  rw [run_bind_of_some (hread text).1]
  exact run_map_of_some (c :: ·) hgo

theorem ne_of_isStringChar {c : Char} (h : isStringChar c = true) : c ≠ '\n' ∧ c ≠ '\r' :=
  ⟨ne_of_test h (by decide), ne_of_test h (by decide)⟩

theorem longChar_stringChar {c : Char} (hc : isStringChar c = true) (hquote : c ≠ quote)
    (hescape : ¬(c = '\\' ∧ escapes = true)) : LongChar quote escapes [c] c := by
  obtain ⟨hnewline, hreturn⟩ := ne_of_isStringChar hc
  refine ⟨⟨c, [], rfl, hquote, hreturn, id⟩, fun {fuel text rest cs} hgo ↦ ?_⟩
  rw [longString.go, run_get_bind]
  refine (run_lift_bind _ rfl).trans ?_
  rw [if_neg hquote, if_neg (by simp [hnewline, hreturn]), if_neg hescape, if_pos hc]
  exact run_map_of_some (c :: ·) hgo

theorem longChar_newline (hquote : quote ≠ '\n') : LongChar quote escapes ['\n'] '\n' := by
  refine ⟨⟨'\n', [], rfl, hquote.symm, by decide, id⟩, fun {fuel text rest cs} hgo ↦ ?_⟩
  rw [longString.go, run_get_bind]
  refine (run_lift_bind _ rfl).trans ?_
  have hnewline : newline.run ('\n' :: text) = some ((), text) :=
    run_orElse_of_some _ (run_char '\n' text)
  rw [if_neg hquote.symm, if_pos (.inl rfl)]
  refine (run_bind_of_some hnewline).trans ?_
  exact run_map_of_some ('\n' :: ·) hgo

/-- A run of quotes is taken at once. -/
theorem run_takeWhile_quotes (run : Nat) (hrest : ∀ c ∈ rest.head?, c ≠ quote) :
    (takeWhile (· == quote)).run (List.replicate run quote ++ rest) =
      some (List.replicate run quote, rest) :=
  run_takeWhile (fun c hc ↦ by simp [List.eq_of_mem_replicate hc])
    fun c hc ↦ beq_eq_false_iff_ne.mpr (hrest c hc)

theorem run_go_quotes {run fuel : Nat} (hpos : 0 < run) (hrun : run ≤ 2)
    (htext : ∀ c ∈ text.head?, c ≠ quote) {cs : List Char}
    (hgo : (longString.go quote escapes fuel).run text = some (cs, rest)) :
    (longString.go quote escapes (fuel + 1)).run (List.replicate run quote ++ text) =
      some (List.replicate run quote ++ cs, rest) := by
  obtain ⟨before, rfl⟩ := Nat.exists_eq_succ_of_ne_zero hpos.ne'
  rw [longString.go, run_get_bind]
  refine (run_lift_bind _ rfl).trans ?_
  rw [if_pos rfl, run_bind_of_some (run_takeWhile_quotes _ htext), List.length_replicate,
    if_pos (Nat.lt_succ_of_le hrun)]
  exact run_map_of_some (List.replicate _ quote ++ ·) hgo

theorem run_go_end {run : Nat} (hrun : run ≤ 2) (fuel : Nat)
    (hrest : ∀ c ∈ rest.head?, c ≠ quote) :
    (longString.go quote escapes (fuel + 1)).run (List.replicate (run + 3) quote ++ rest) =
      some (List.replicate run quote, rest) := by
  rw [longString.go, run_get_bind]
  refine (run_lift_bind _ rfl).trans ?_
  rw [if_pos rfl, run_bind_of_some (run_takeWhile_quotes _ hrest), List.length_replicate,
    if_neg (by omega), if_pos (by omega), List.drop_replicate, Nat.add_sub_cancel]
  rfl

/-- A body is read up to the quotes that end the string, together with the quotes before it. -/
theorem LongBody.read {run : Nat} {text cs : List Char} (h : LongBody quote escapes run text cs)
    {rest : List Char} (hrest : ∀ c ∈ rest.head?, c ≠ quote) {fuel : Nat}
    (hfuel : run + text.length < fuel) :
    (longString.go quote escapes fuel).run
        (List.replicate run quote ++ (text ++ (List.replicate 3 quote ++ rest))) =
      some (List.replicate run quote ++ cs, rest) := by
  obtain ⟨fuel, rfl⟩ := Nat.exists_eq_succ_of_ne_zero (Nat.ne_zero_of_lt hfuel)
  -- quotes are put aside until another character or the end follows, where the run is read at once
  induction h generalizing fuel with
  | nil hrun =>
    have hend : (longString.go quote escapes (fuel + 1)).run _ = _ := run_go_end hrun fuel hrest
    rw [List.replicate_add, List.append_assoc] at hend
    rwa [List.nil_append, List.append_nil]
  | @quote run text cs hbody ih =>
    have hmoved (tail : List Char) : List.replicate run quote ++ quote :: tail =
        List.replicate (run + 1) quote ++ tail := by
      rw [List.replicate_succ', List.append_assoc, List.singleton_append]
    rw [List.cons_append, hmoved, hmoved]
    exact ih fuel (by simp at hfuel; omega)
  | @char run chunk text cs c hrun hchunk _ ih =>
    have hafter {fuel : Nat} (h : text.length < fuel) : (longString.go quote escapes fuel).run
        (text ++ (List.replicate 3 quote ++ rest)) = some (cs, rest) := by
      obtain ⟨fuel, rfl⟩ := Nat.exists_eq_succ_of_ne_zero (Nat.ne_zero_of_lt h)
      exact ih fuel (by simpa using h)
    obtain ⟨d, tail, hchars, hd, -⟩ := hchunk.begins
    have hlength : 0 < chunk.length := by
      rw [hchars]
      exact Nat.succ_pos _
    rw [List.length_append] at hfuel
    rw [List.append_assoc chunk]
    rcases Nat.eq_zero_or_pos run with rfl | hpos
    · exact hchunk.read (hafter (by omega))
    · obtain ⟨fuel, rfl⟩ := Nat.exists_eq_succ_of_ne_zero (show fuel ≠ 0 by omega)
      refine run_go_quotes hpos hrun ?_ (hchunk.read (hafter (by omega)))
      rw [hchars]
      simpa using hd

/-- A body begins with a line end only if the string does, and never with a carriage return. -/
theorem LongBody.begins {run : Nat} {text cs : List Char} (h : LongBody quote escapes run text cs)
    (hquote : quote ≠ '\n' ∧ quote ≠ '\r') (hcs : '\n' ∉ cs) (rest : List Char) :
    newline.run (text ++ (List.replicate 3 quote ++ rest)) = none := by
  have hfirst {d : Char} (hd : d ≠ '\n' ∧ d ≠ '\r') (tail : List Char) :
      newline.run (d :: tail) = none := by
    rw [newline, run_orElse_of_none _ (run_char_of_ne hd.1 tail)]
    exact run_chars_eq_none (by simp [hd.2.symm])
  cases h with
  | nil => exact hfirst hquote _
  | quote => exact hfirst hquote _
  | char _ hchunk _ =>
    obtain ⟨d, tail, rfl, -, hreturn, hnewline⟩ := hchunk.begins
    refine hfirst ⟨fun heq ↦ hcs ?_, hreturn⟩ _
    rw [hnewline heq]
    exact List.mem_cons_self

/-- A string of several lines is read after the quotes that open it. -/
theorem run_longString {text cs : List Char} (h : LongBody quote escapes 0 text cs)
    (hquote : quote ≠ '\n' ∧ quote ≠ '\r') {rest : List Char}
    (hrest : ∀ c ∈ rest.head?, c ≠ quote) :
    (longString quote escapes).run ((if cs.contains '\n' then ['\n'] else []) ++
        (text ++ (List.replicate 3 quote ++ rest))) = some (cs, rest) := by
  have hbody : (fuel >>= longString.go quote escapes).run
      (text ++ (List.replicate 3 quote ++ rest)) = some (cs, rest) := by
    rw [run_fuel_bind]
    exact h.read hrest (by simp)
  by_cases hnewline : '\n' ∈ cs
  · have hskip : (optional newline).run ('\n' :: (text ++ (List.replicate 3 quote ++ rest))) =
        some (some (), text ++ (List.replicate 3 quote ++ rest)) :=
      run_orElse_of_some _ (run_map_of_some some (run_orElse_of_some _ (run_char '\n' _)))
    rw [if_pos (by simpa using hnewline), longString]
    exact (run_bind_of_some hskip).trans hbody
  · have hnone := h.begins hquote hnewline rest
    have hskip : (optional newline).run (text ++ (List.replicate 3 quote ++ rest)) =
        some (none, text ++ (List.replicate 3 quote ++ rest)) := by
      rw [optional, run_orElse_of_none]
      · rfl
      · rw [StateT.run_map, hnone]
        rfl
    rw [if_neg (by simpa using hnewline), longString, List.nil_append]
    exact (run_bind_of_some hskip).trans hbody

end

/-! ## Bodies that are written -/

theorem longBody_escapeFrom (cs : List Char) {run : Nat} (hrun : run ≤ 2) :
    LongBody '"' true run (escapeFrom true run cs) cs := by
  induction cs generalizing run with
  | nil => exact .nil hrun
  | cons c cs ih =>
    rw [escapeFrom]
    by_cases hquote : c = '"'
    · rw [if_pos hquote, hquote]
      split
      case isTrue hfree =>
        simp only [Bool.true_and, decide_eq_true_eq] at hfree
        exact .quote (ih hfree)
      case isFalse =>
        exact .char hrun (longChar_escape escapes_quote (by decide)) (ih (Nat.zero_le 2))
    · rw [if_neg hquote]
      refine .char hrun ?_ (ih (Nat.zero_le 2))
      rcases escapeChar_cases true c with hescape | ⟨hself, hbackslash, hchar | ⟨-, hnewline⟩⟩
      · exact longChar_escape hescape (by decide)
      · rw [hself]
        exact longChar_stringChar hchar hquote fun h ↦ hbackslash h.1
      · rw [hself, hnewline]
        exact longChar_newline (by decide)

theorem isStringChar_of_not_isControl {c : Char} (h : isControl c = false) :
    isStringChar c = true ∨ c = '\n' := by
  simp only [isControl, Bool.or_eq_false_iff, Bool.and_eq_false_iff, decide_eq_false_iff_not,
    bne_eq_false_iff_eq, beq_eq_false_iff_ne] at h
  obtain ⟨(hlarge | htab) | hnewline, hdelete⟩ := h
  · simp [isStringChar, isCommentChar, hdelete, Nat.not_lt.mp hlarge]
  · simp [isStringChar, isCommentChar, htab]
  · exact .inr hnewline

theorem longBody_self {quote : Char} {cs : List Char} (hcs : ∀ c ∈ cs, isControl c = false)
    {run : Nat} (hrun : longestRun quote run cs ≤ 2) (hquote : quote ≠ '\n') :
    LongBody quote false run cs cs := by
  induction cs generalizing run with
  | nil => exact .nil hrun
  | cons c cs ih =>
    obtain ⟨hc, hcs⟩ := List.forall_mem_cons.mp hcs
    rw [longestRun] at hrun
    split at hrun
    case isTrue heq =>
      rw [heq]
      exact .quote (ih hcs hrun)
    case isFalse hne =>
      have hchunk : LongChar quote false [c] c := by
        rcases isStringChar_of_not_isControl hc with hchar | rfl
        · exact longChar_stringChar hchar hne (by simp)
        · exact longChar_newline hquote
      exact .char (le_of_max_le_left hrun) hchunk (ih hcs (le_of_max_le_right hrun))

/-! ## Styles -/

theorem style_literal {cs : List Char} (h : Style.of cs = .literal) :
    cs ≠ [] ∧ ∀ c ∈ cs, c ≠ '\'' ∧ isStringChar c = true := by
  refine ⟨?_, fun c hc ↦ ?_⟩
  · rintro rfl
    cases h
  · unfold Style.of at h
    dsimp only at h
    split_ifs at h with hbasic hliteral
    simp only [Bool.and_eq_true, Bool.not_eq_true', List.any_eq_false, List.contains_eq_mem,
      decide_eq_false_iff_not] at hliteral
    obtain ⟨⟨hplain, hline⟩, hquote⟩ := hliteral
    have hchar := isStringChar_of_not_isControl (Bool.eq_false_iff.mpr (hplain c hc))
    exact ⟨fun heq ↦ hquote (heq ▸ hc), hchar.resolve_right fun heq ↦ hline (heq ▸ hc)⟩

theorem style_longLiteral {cs : List Char} (h : Style.of cs = .longLiteral) :
    (∀ c ∈ cs, isControl c = false) ∧ longestRun '\'' 0 cs ≤ 2 := by
  unfold Style.of at h
  dsimp only at h
  split_ifs at h with hbasic hliteral hlongBasic hlongLiteral
  simp only [Bool.and_eq_true, Bool.not_eq_true', List.any_eq_false,
    decide_eq_true_eq] at hlongLiteral
  exact ⟨fun c hc ↦ Bool.eq_false_iff.mpr (hlongLiteral.1 c hc), hlongLiteral.2⟩

/-- What is written in double quotes on one line does not begin with a quote. -/
theorem escapeFrom_begins (run : Nat) (c : Char) (cs : List Char) :
    ∃ d tail, escapeFrom false run (c :: cs) = d :: tail ∧ d ≠ '"' := by
  rw [escapeFrom]
  by_cases hquote : c = '"'
  · rw [if_pos hquote]
    exact ⟨'\\', _, rfl, by decide⟩
  · rw [if_neg hquote]
    rcases escapeChar_cases false c with ⟨tail, htail, -⟩ | ⟨hself, -⟩
    · rw [htail]
      exact ⟨'\\', _, rfl, by decide⟩
    · rw [hself]
      exact ⟨c, _, rfl, hquote⟩

/-- No string on one line is taken for the beginning of one of several lines. -/
theorem not_prefix_basic (cs : List Char) {rest : List Char} (hrest : ∀ c ∈ rest.head?, c ≠ '"') :
    ¬['"', '"', '"'] <+: '"' :: (escapeFrom false 0 cs ++ '"' :: rest) := by
  cases cs with
  | nil =>
    intro hprefix
    cases rest with
    | nil => simp [escapeFrom] at hprefix
    | cons d rest => simp [escapeFrom, (hrest d rfl).symm] at hprefix
  | cons c cs =>
    obtain ⟨d, tail, htext, hd⟩ := escapeFrom_begins 0 c cs
    rw [htext]
    simp [hd.symm]

/-- A string is read as it was written, whatever its style, if no quote follows. -/
theorem run_stringText (cs : List Char) {rest : List Char}
    (hrest : ∀ c ∈ rest.head?, c ≠ '"' ∧ c ≠ '\'') :
    string.run (stringText cs ++ rest) = some (cs, rest) := by
  have hdouble : ∀ c ∈ rest.head?, c ≠ '"' := fun c hc ↦ (hrest c hc).1
  have hsingle : ∀ c ∈ rest.head?, c ≠ '\'' := fun c hc ↦ (hrest c hc).2
  unfold stringText
  split
  -- three quotes are looked for before one, and double ones before single ones
  case h_1 =>
    rw [List.append_assoc, List.cons_append, List.singleton_append, string,
      run_orElse_of_first_none _ _ (run_chars_eq_none (not_prefix_basic cs hdouble)),
      run_orElse_of_first_none _ _ (run_chars_eq_none (by simp))]
    exact run_orElse_of_some _ ((run_bind_of_some (run_char '"' _)).trans
      (run_basicString cs rest))
  case h_2 hstyle =>
    obtain ⟨hne, hcs⟩ := style_literal hstyle
    obtain ⟨c, tail, rfl⟩ := List.exists_cons_of_ne_nil hne
    have hc := (hcs c List.mem_cons_self).1
    rw [List.append_assoc, List.cons_append, List.singleton_append, string,
      run_orElse_of_first_none _ _ (run_chars_eq_none (by simp)),
      run_orElse_of_first_none _ _ (run_chars_eq_none (by simp [hc.symm])),
      run_orElse_of_first_none _ _ (run_char_of_ne (by decide) _),
      run_bind_of_some (run_char '\'' _)]
    exact run_literalString hcs rest
  case h_3 =>
    have hbody := run_longString (longBody_escapeFrom cs (Nat.zero_le 2)) (by decide) hdouble
    rw [enclose, string]
    refine run_orElse_of_some _ ?_
    rw [List.append_assoc, List.append_assoc, List.append_assoc,
      run_bind_of_some (run_chars ['"', '"', '"'] _)]
    exact hbody
  case h_4 hstyle =>
    obtain ⟨hplain, hruns⟩ := style_longLiteral hstyle
    have hbody := run_longString (longBody_self hplain hruns (by decide)) (by decide) hsingle
    rw [enclose, string, List.append_assoc, List.append_assoc, List.append_assoc,
      run_orElse_of_first_none _ _ (run_chars_eq_none (by simp))]
    refine run_orElse_of_some _ ?_
    rw [run_bind_of_some (run_chars ['\'', '\'', '\''] _)]
    exact hbody

end Reader

end ApiReference.Toml
