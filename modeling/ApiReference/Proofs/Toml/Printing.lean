import ApiReference.Proofs.Text.Split
import ApiReference.Proofs.Toml.Numbers

/-!
# Documents Read Back

The text of blocks is read line by line: the header of each block, its pairs, and the empty lines
between blocks.  The sections that the lines make up are the blocks.
-/

namespace ApiReference.Toml

open Decimal Text

/-! ## What can be written -/

/-- A key that needs no quotes. -/
def Bare (key : String) : Prop :=
  key ≠ "" ∧ ∀ c ∈ key.toList, Reader.isBareKeyChar c = true

namespace Plain

/-- The item that a value is read as. -/
def item : Plain → Item
  | .text value => .scalar (.text value)
  | .integer value => .scalar (.integer value)
  | .flag value => .scalar (.flag value)
  | .emptyArray => .array []

/-- An integer fits 64 bits with a sign and is not negative. -/
def Fits : Plain → Prop
  | .integer value => 0 ≤ value ∧ value < Word.signedLimit
  | _ => True

end Plain

/-- A key and a value that can be read back. -/
structure PairFits (pair : String × Plain) : Prop where
  key : Bare pair.1
  value : pair.2.Fits

/-- The pair that a key and a value are read as. -/
def toPair (pair : String × Plain) : Pair :=
  ⟨[], pair.1, pair.2.item⟩

namespace Block

/-- A block that can be read back: its keys need no quotes, and its path is not too long. -/
structure Fits (block : Block) : Prop where
  nonempty : block.path ≠ []
  short : block.path.length < Reader.depthLimit
  path : ∀ step ∈ block.path, Bare step
  pairs : ∀ pair ∈ block.pairs, PairFits pair

def toSection (block : Block) : Section where
  path := block.path
  repeated := block.repeated
  pairs := block.pairs.map toPair

/-- The texts of the lines of a block. -/
def texts (block : Block) : List (List Char) :=
  block.header :: block.pairs.map pairText

def lines (block : Block) : List Reader.Line :=
  .header block.path block.repeated :: block.pairs.map fun pair ↦ .pair (toPair pair)

end Block

namespace Reader

/-! ## Values -/

theorem stringText_begins (cs : List Char) :
    ∃ c tail, stringText cs = c :: tail ∧ (c = '"' ∨ c = '\'') := by
  unfold stringText
  split
  · exact ⟨'"', _, rfl, .inl rfl⟩
  · exact ⟨'\'', _, rfl, .inr rfl⟩
  · exact ⟨'"', _, rfl, .inl rfl⟩
  · exact ⟨'\'', _, rfl, .inr rfl⟩

theorem run_item_scalar {c : Char} {text rest : List Char} {value : Value} (hlist : c ≠ '[')
    (htable : c ≠ '\x7b') (hscalar : (scalar c).run (c :: text) = some (value, rest))
    (depth : Nat) :
    (item (depth + 1)).run (c :: text) = some (.scalar value, rest) := by
  rw [item, run_get_bind]
  refine (run_lift_bind _ rfl).trans ?_
  rw [if_neg hlist, if_neg htable]
  exact run_map_of_some Item.scalar hscalar

theorem print_integer (n : Nat) : (Plain.integer n).print = Nat.toDigits 10 n := by
  show (Nat.repr n).toList = Nat.toDigits 10 n
  rw [Nat.repr_eq_ofList_toDigits, String.toList_ofList]

/-- A value is read back at the end of its line. -/
theorem run_item {plain : Plain} (h : plain.Fits) (depth : Nat) (rest : List Char) :
    (item (depth + 1)).run (plain.print ++ '\n' :: rest) = some (plain.item, '\n' :: rest) := by
  cases plain with
  | text value =>
    have hstring : string.run (stringText value.toList ++ '\n' :: rest) =
        some (value.toList, '\n' :: rest) := run_stringText _ (by simp)
    obtain ⟨c, tail, htext, hc⟩ := stringText_begins value.toList
    rw [htext] at hstring
    rw [Plain.print, htext]
    have hscalar : (scalar c).run (c :: tail ++ '\n' :: rest) =
        some (.text value, '\n' :: rest) := by
      rw [scalar, if_pos hc]
      refine (run_map_of_some (fun cs ↦ Value.text (String.ofList cs)) hstring).trans ?_
      rw [String.ofList_toList]
    rcases hc with rfl | rfl
    · exact run_item_scalar (by decide) (by decide) hscalar depth
    · exact run_item_scalar (by decide) (by decide) hscalar depth
  | integer value =>
    obtain ⟨n, rfl⟩ := Int.eq_ofNat_of_zero_le h.1
    obtain ⟨c, tail, htext, hc, hscalar⟩ := run_scalar_toDigits (Int.ofNat_lt.mp h.2) rest
    rw [print_integer, htext]
    exact run_item_scalar (ne_of_test hc (by decide)) (ne_of_test hc (by decide)) hscalar
      depth
  | flag value => cases value <;> rfl
  | emptyArray => rfl

/-- No value begins with a blank. -/
theorem print_begins {plain : Plain} (h : plain.Fits) :
    ∃ c tail, plain.print = c :: tail ∧ isSpace c = false := by
  cases plain with
  | text value =>
    obtain ⟨c, tail, htext, hc⟩ := stringText_begins value.toList
    refine ⟨c, tail, htext, ?_⟩
    rcases hc with rfl | rfl <;> rfl
  | integer value =>
    obtain ⟨n, rfl⟩ := Int.eq_ofNat_of_zero_le h.1
    obtain ⟨d, ds, hds, hd⟩ := exists_cons_toDigits n
    have hspace : d ≠ ' ' ∧ d ≠ '\t' :=
      ⟨ne_of_test hd (by decide), ne_of_test hd (by decide)⟩
    exact ⟨d, ds, (print_integer n).trans hds, by simp [isSpace, hspace]⟩
  | flag value => cases value <;> exact ⟨_, _, rfl, rfl⟩
  | emptyArray => exact ⟨_, _, rfl, rfl⟩

/-! ## Keys -/

theorem run_spaces_of_not_space {text : List Char} (h : ∀ c ∈ text.head?, isSpace c = false) :
    spaces.run text = some ((), text) := by
  have htake : (takeWhile isSpace).run ([] ++ text) = some ([], text) := run_takeWhile (by simp) h
  exact (run_bind_of_some htake).trans rfl

theorem isSpace_of_isBareKeyChar {c : Char} (h : isBareKeyChar c = true) : isSpace c = false := by
  rw [isSpace, Bool.or_eq_false_iff, beq_eq_false_iff_ne, beq_eq_false_iff_ne]
  exact ⟨ne_of_test h (by decide), ne_of_test h (by decide)⟩

theorem Bare.begins {key : String} (h : Bare key) :
    ∃ c cs, key.toList = c :: cs ∧ isBareKeyChar c = true := by
  obtain ⟨c, cs, hkey⟩ := List.exists_cons_of_ne_nil (mt String.toList_eq_nil_iff.mp h.1)
  exact ⟨c, cs, hkey, h.2 c (hkey ▸ List.mem_cons_self)⟩

theorem run_spaces_bare {key : String} (h : Bare key) (rest : List Char) :
    spaces.run (key.toList ++ rest) = some ((), key.toList ++ rest) := by
  obtain ⟨c, cs, hkey, hc⟩ := Bare.begins h
  refine run_spaces_of_not_space ?_
  rw [hkey]
  simpa using isSpace_of_isBareKeyChar hc

/-- A bare key is read up to the first character that is none of a bare key. -/
theorem run_keyStep {step : String} (h : Bare step) {rest : List Char}
    (hrest : ∀ c ∈ rest.head?, isBareKeyChar c = false) :
    keyStep.run (step.toList ++ rest) = some (step, rest) := by
  obtain ⟨c, cs, hstep, hc⟩ := Bare.begins h
  have hquote {d : Char} (hd : isBareKeyChar d = false) :
      (step.toList ++ rest).head? ≠ some d := by
    rw [hstep]
    exact fun heq ↦ ne_of_test hc hd (Option.some.inj heq)
  rw [keyStep, run_peek_bind]
  split
  case h_1 heq => exact absurd heq (hquote (by decide))
  case h_2 heq => exact absurd heq (hquote (by decide))
  case h_3 =>
    rw [run_bind_of_some (run_takeWhile h.2 hrest), if_neg (by simp [h.1]), String.ofList_toList]
    rfl

/-- The steps of a key are read up to what follows them, blanks passed over. -/
theorem run_key_go {steps : List String} (hne : steps ≠ []) (hsteps : ∀ step ∈ steps, Bare step)
    {rest after : List Char} (hrest : ∀ c ∈ rest.head?, isBareKeyChar c = false)
    (hafter : spaces.run rest = some ((), after)) (hend : after.head? ≠ some '.') {fuel : Nat}
    (hfuel : steps.length ≤ fuel) :
    (key.go fuel).run (['.'].intercalate (steps.map String.toList) ++ rest) =
      some (steps, after) := by
  -- a step is followed by a dot or, being the last, by what ends the key
  induction steps generalizing fuel with
  | nil => exact absurd rfl hne
  | cons step steps ih =>
    obtain ⟨hstep, hsteps⟩ := List.forall_mem_cons.mp hsteps
    obtain ⟨fuel, rfl⟩ := Nat.exists_eq_succ_of_ne_zero (Nat.ne_zero_of_lt hfuel)
    rw [key.go]
    cases steps with
    | nil =>
      rw [List.map_singleton, List.intercalate_singleton,
        run_bind_of_some (run_spaces_bare hstep _), run_bind_of_some (run_keyStep hstep hrest),
        run_bind_of_some hafter, run_peek_bind, if_neg hend]
      rfl
    | cons next steps =>
      have htail := ih (by simp) hsteps (Nat.le_of_succ_le_succ hfuel)
      have hdot : ∀ tail, spaces.run ('.' :: tail) = some ((), '.' :: tail) := fun _ ↦
        run_spaces_of_not_space (by simp [isSpace])
      have hdotted : ∀ {tail : List Char}, ∀ c ∈ ('.' :: tail).head?, isBareKeyChar c = false := by
        intro tail c hc
        cases hc
        decide
      rw [List.map_cons, List.map_cons, List.intercalate_cons_cons, List.append_assoc,
        List.append_assoc, List.singleton_append, run_bind_of_some (run_spaces_bare hstep _),
        run_bind_of_some (run_keyStep hstep hdotted), run_bind_of_some (hdot _), run_peek_bind,
        List.head?_cons, if_pos rfl, run_bind_of_some (run_char '.' _)]
      exact run_map_of_some (step :: ·) htail

theorem intercalate_begins {steps : List String} (hne : steps ≠ [])
    (hsteps : ∀ step ∈ steps, Bare step) :
    ∃ c tail, ['.'].intercalate (steps.map String.toList) = c :: tail ∧
      isBareKeyChar c = true := by
  obtain ⟨step, rest, rfl⟩ := List.exists_cons_of_ne_nil hne
  obtain ⟨c, cs, hchars, hc⟩ := Bare.begins (hsteps step List.mem_cons_self)
  cases rest with
  | nil => exact ⟨c, cs, by rw [List.map_singleton, List.intercalate_singleton, hchars], hc⟩
  | cons next rest =>
    rw [List.map_cons, List.map_cons, List.intercalate_cons_cons, hchars]
    exact ⟨c, _, rfl, hc⟩

theorem length_le_length_intercalate (steps : List String) (hsteps : ∀ step ∈ steps, Bare step) :
    steps.length ≤ (['.'].intercalate (steps.map String.toList)).length := by
  induction steps with
  | nil => exact Nat.le_refl 0
  | cons step steps ih =>
    obtain ⟨hstep, hsteps⟩ := List.forall_mem_cons.mp hsteps
    obtain ⟨c, cs, hchars, -⟩ := Bare.begins hstep
    have htail := ih hsteps
    cases steps with
    | nil => simp [hchars]
    | cons next steps =>
      rw [List.map_cons] at htail
      rw [List.map_cons, List.map_cons, List.intercalate_cons_cons, hchars]
      simp only [List.length_append, List.length_cons] at htail ⊢
      omega

/-- Bare keys between points are read as the steps of a path. -/
theorem run_key {steps : List String} {last : String} (hlast : steps.getLast? = some last)
    (hsteps : ∀ step ∈ steps, Bare step) (hshort : steps.length < depthLimit)
    {rest after : List Char} (hrest : ∀ c ∈ rest.head?, isBareKeyChar c = false)
    (hafter : spaces.run rest = some ((), after)) (hend : after.head? ≠ some '.') :
    key.run (['.'].intercalate (steps.map String.toList) ++ rest) =
      some ((steps.dropLast, last), after) := by
  have hne : steps ≠ [] := by
    rintro rfl
    cases hlast
  have hlength := length_le_length_intercalate steps hsteps
  have hfuel : steps.length ≤
      (['.'].intercalate (steps.map String.toList) ++ rest).length + 1 := by
    rw [List.length_append]
    omega
  rw [key, run_fuel_bind, run_bind_of_some (run_key_go hne hsteps hrest hafter hend hfuel)]
  dsimp only
  rw [if_neg (Nat.not_le.mpr hshort), hlast]
  rfl

/-! ## Lines -/

theorem run_endLine (rest : List Char) : endLine.run ('\n' :: rest) = some ((), rest) := by
  rfl

/-- A printed pair is read as itself. -/
theorem run_pair {pair : String × Plain} (h : PairFits pair) (depth : Nat) (rest : List Char) :
    (Reader.pair (item (depth + 1))).run (pairText pair ++ rest) =
      some (toPair pair, '\n' :: rest) := by
  let after := '=' :: ' ' :: (pair.2.print ++ '\n' :: rest)
  have htext : pairText pair ++ rest =
      ['.'].intercalate ([pair.1].map String.toList) ++ ' ' :: after := by
    simp [pairText, after]
  have hafter : spaces.run (' ' :: after) = some ((), after) := rfl
  have hkey : key.run (['.'].intercalate ([pair.1].map String.toList) ++ ' ' :: after) =
      some (([], pair.1), after) :=
    run_key rfl (by simpa using h.key) (by simp [depthLimit]) (by simp [isBareKeyChar]) hafter
      (by simp [after])
  have hspaces : spaces.run (' ' :: (pair.2.print ++ '\n' :: rest)) =
      some ((), pair.2.print ++ '\n' :: rest) := by
    obtain ⟨c, tail, hprint, hc⟩ := print_begins h.value
    have hblank : (takeWhile isSpace).run ([' '] ++ (pair.2.print ++ '\n' :: rest)) =
        some ([' '], pair.2.print ++ '\n' :: rest) :=
      run_takeWhile (by simp [isSpace]) (by simpa [hprint] using hc)
    exact (run_bind_of_some hblank).trans rfl
  rw [htext, Reader.pair, run_bind_of_some hkey]
  dsimp only [after]
  rw [run_bind_of_some (run_char '=' _), run_bind_of_some hspaces]
  exact run_map_of_some (Pair.mk [] pair.1) (run_item h.value depth rest)

theorem run_line_pair {pair : String × Plain} (h : PairFits pair) (rest : List Char) :
    line.run (pairText pair ++ rest) = some (.pair (toPair pair), rest) := by
  obtain ⟨c, cs, hkey, hc⟩ := Bare.begins h.key
  have hpair : (Reader.pair (item (depthLimit - 1))).run (pairText pair ++ rest) =
      some (toPair pair, '\n' :: rest) := run_pair h (depthLimit - 2) rest
  have hhead {d : Char} (hd : isBareKeyChar d = false) :
      (pairText pair ++ rest).head? ≠ some d := by
    rw [pairText, hkey]
    exact fun heq ↦ ne_of_test hc hd (Option.some.inj heq)
  rw [line, run_peek_bind]
  split
  case h_1 heq => exact absurd heq (hhead (by decide))
  case h_2 heq => exact absurd heq (hhead (by decide))
  case h_3 heq => exact absurd heq (hhead (by decide))
  case h_4 heq => exact absurd heq (hhead (by decide))
  case h_5 =>
    rw [run_bind_of_some hpair, run_bind_of_some (run_endLine rest)]
    rfl

theorem run_line_header {block : Block} (h : block.Fits) (rest : List Char) :
    line.run (block.header ++ rest) = some (.header block.path block.repeated, rest) := by
  obtain ⟨last, hlast⟩ := Option.ne_none_iff_exists'.mp
    (mt List.getLast?_eq_none_iff.mp h.nonempty)
  have hpath : block.path.dropLast ++ [last] = block.path :=
    List.dropLast_append_getLast? last hlast
  have hkey (after : List Char) :
      key.run (['.'].intercalate (block.path.map String.toList) ++ ']' :: after) =
        some ((block.path.dropLast, last), ']' :: after) :=
    run_key hlast h.path h.short (by simp [isBareKeyChar]) rfl (by simp)
  have htoList : (String.intercalate "." block.path).toList =
      ['.'].intercalate (block.path.map String.toList) := String.toList_intercalate
  unfold Block.header
  rw [htoList]
  cases block.repeated with
  | true =>
    rw [line, run_peek_bind]
    show (char '[' >>= fun _ ↦ header).run ('[' :: '[' :: (_ ++ [']', ']', '\n'] ++ rest)) = _
    rw [run_bind_of_some (run_char '[' _), header, run_peek_bind, List.append_assoc]
    dsimp only
    rw [List.head?_cons, if_pos rfl, run_bind_of_some (run_char '[' _)]
    refine (run_bind_of_some (hkey (']' :: '\n' :: rest))).trans ?_
    rw [run_bind_of_some (run_char ']' _), if_pos rfl, run_bind_of_some (run_char ']' _),
      run_bind_of_some (run_endLine rest), hpath]
    rfl
  | false =>
    -- a second bracket would make the header a repeated one
    obtain ⟨c, tail, hjoined, hc⟩ := intercalate_begins h.nonempty h.path
    have hopen : (['.'].intercalate (block.path.map String.toList) ++
        ([']', '\n'] ++ rest)).head? ≠ some '[' := by
      rw [hjoined]
      exact fun heq ↦ ne_of_test hc (by decide) (Option.some.inj heq)
    rw [line, run_peek_bind]
    show (char '[' >>= fun _ ↦ header).run ('[' :: (_ ++ [']', '\n'] ++ rest)) = _
    rw [run_bind_of_some (run_char '[' _), header, run_peek_bind, List.append_assoc]
    dsimp only
    rw [if_neg hopen]
    refine (run_bind_of_some (hkey ('\n' :: rest))).trans ?_
    rw [run_bind_of_some (run_char ']' _), if_neg hopen, run_bind_of_some (run_endLine rest), hpath]
    simp only [hopen, decide_false]
    rfl

theorem run_line_newline (rest : List Char) :
    line.run ('\n' :: rest) = some (.nothing, rest) :=
  rfl

/-! ## Texts of several lines -/

/-- A text is read as a line, whatever may follow it. -/
structure ReadsLine (text : List Char) (l : Line) : Prop where
  begins : ∃ c tail, text = c :: tail ∧ isSpace c = false
  read : ∀ rest, line.run (text ++ rest) = some (l, rest)

theorem readsLine_newline : ReadsLine ['\n'] .nothing :=
  ⟨⟨'\n', [], rfl, rfl⟩, run_line_newline⟩

theorem readsLine_header {block : Block} (h : block.Fits) :
    ReadsLine block.header (.header block.path block.repeated) := by
  refine ⟨?_, run_line_header h⟩
  unfold Block.header
  split
  · exact ⟨'[', _, rfl, rfl⟩
  · exact ⟨'[', _, rfl, rfl⟩

theorem readsLine_pair {pair : String × Plain} (h : PairFits pair) :
    ReadsLine (pairText pair) (.pair (toPair pair)) := by
  obtain ⟨c, cs, hkey, hc⟩ := Bare.begins h.key
  have htext : pairText pair = c :: (cs ++ [' ', '=', ' '] ++ pair.2.print ++ ['\n']) := by
    rw [pairText, hkey]
    rfl
  exact ⟨⟨c, _, htext, isSpace_of_isBareKeyChar hc⟩, run_line_pair h⟩

theorem readsLines_block {block : Block} (h : block.Fits) :
    List.Forall₂ ReadsLine block.texts block.lines :=
  .cons (readsLine_header h) (forall₂_map_map fun pair hpair ↦ readsLine_pair (h.pairs pair hpair))

theorem readsLines_blocks {blocks : List Block} (h : ∀ block ∈ blocks, block.Fits) :
    List.Forall₂ ReadsLine ([['\n']].intercalate (blocks.map Block.texts))
      ([Line.nothing].intercalate (blocks.map Block.lines)) := by
  refine forall₂_intercalate (.cons readsLine_newline .nil) ?_
  exact forall₂_map_map fun block hblock ↦ readsLines_block (h block hblock)

/-- Lines are read one after the other while the fuel lasts. -/
theorem run_lines_go {texts : List (List Char)} {ls : List Line}
    (h : List.Forall₂ ReadsLine texts ls) {fuel : Nat} (hfuel : texts.flatten.length < fuel) :
    (lines.go fuel).run texts.flatten = some (ls, []) := by
  induction h generalizing fuel with
  | nil =>
    obtain ⟨fuel, rfl⟩ := Nat.exists_eq_succ_of_ne_zero (Nat.ne_zero_of_lt hfuel)
    rfl
  | @cons text l texts ls hline _ ih =>
    obtain ⟨fuel, rfl⟩ := Nat.exists_eq_succ_of_ne_zero (Nat.ne_zero_of_lt hfuel)
    obtain ⟨c, tail, htext, hc⟩ := hline.begins
    have hread := hline.read texts.flatten
    have hspaces : spaces.run (text ++ texts.flatten) = some ((), text ++ texts.flatten) :=
      run_spaces_of_not_space (by simpa [htext] using hc)
    rw [List.flatten_cons] at hfuel ⊢
    rw [lines.go, run_bind_of_some hspaces, run_get_bind, if_neg (by simp [htext]),
      run_bind_of_some hread]
    refine run_map_of_some (l :: ·) (ih ?_)
    rw [htext, List.length_append, List.length_cons] at hfuel
    omega

theorem flatten_texts (blocks : List Block) :
    ([['\n']].intercalate (blocks.map Block.texts)).flatten = printBlocks blocks := by
  have hblock (block : Block) : block.texts.flatten = block.print := by
    rw [Block.texts, List.flatten_cons, ← List.flatMap_def, Block.print]
  calc
    _ = ['\n'].intercalate ((blocks.map Block.texts).map List.flatten) :=
      map_intercalate List.flatten_nil (fun _ _ ↦ List.flatten_append) _ _
    _ = ['\n'].intercalate (blocks.map Block.print) := by
      rw [List.map_map]
      exact congrArg _ (List.map_congr_left fun block _ ↦ hblock block)

/-- Printed blocks are read as their lines, with an empty line between two blocks. -/
theorem run_lines {blocks : List Block} (h : ∀ block ∈ blocks, block.Fits) :
    lines.run (printBlocks blocks) =
      some ([Line.nothing].intercalate (blocks.map Block.lines), []) := by
  rw [lines, run_fuel_bind, ← flatten_texts]
  exact run_lines_go (readsLines_blocks h) (Nat.lt_succ_self _)

end Reader

/-! ## Sections -/

theorem sectionsOf_pairs (pairs : List Pair) (ls : List Reader.Line) :
    sectionsOf (pairs.map .pair ++ ls) = (pairs ++ (sectionsOf ls).1, (sectionsOf ls).2) := by
  induction pairs with
  | nil => rfl
  | cons pair pairs ih => rw [List.map_cons, List.cons_append, sectionsOf, ih, List.cons_append]

theorem sectionsOf_block (block : Block) (ls : List Reader.Line) :
    sectionsOf (block.lines ++ ls) =
      ([], ⟨block.path, block.repeated, block.pairs.map toPair ++ (sectionsOf ls).1⟩ ::
        (sectionsOf ls).2) := by
  have hpairs : block.pairs.map (fun pair ↦ Reader.Line.pair (toPair pair)) =
      (block.pairs.map toPair).map .pair := by
    rw [List.map_map]
    rfl
  rw [Block.lines, List.cons_append, hpairs, sectionsOf, sectionsOf_pairs]

/-- The lines of blocks fall into the sections that the blocks are. -/
theorem sectionsOf_blocks (blocks : List Block) :
    sectionsOf ([Reader.Line.nothing].intercalate (blocks.map Block.lines)) =
      ([], blocks.map Block.toSection) := by
  induction blocks with
  | nil => rfl
  | cons block blocks ih =>
    cases blocks with
    | nil =>
      have hblock := sectionsOf_block block []
      rw [List.append_nil] at hblock
      rw [List.map_singleton, List.intercalate_singleton, hblock]
      simp [sectionsOf, Block.toSection]
    | cons next blocks =>
      rw [List.map_cons] at ih
      rw [List.map_cons, List.map_cons, List.intercalate_cons_cons, List.append_assoc,
        sectionsOf_block, List.singleton_append, sectionsOf, ih, List.append_nil]
      rfl

theorem printBlocks_begins (blocks : List Block) : (printBlocks blocks).head? ≠ some '\ufeff' := by
  have hblock (block : Block) : ∃ tail, block.print = '[' :: tail := by
    unfold Block.print Block.header
    split <;> exact ⟨_, rfl⟩
  rcases blocks with - | ⟨block, - | ⟨next, blocks⟩⟩
  · simp [printBlocks]
  · obtain ⟨tail, htail⟩ := hblock block
    simp [printBlocks, htail]
  · obtain ⟨tail, htail⟩ := hblock block
    rw [printBlocks, List.map_cons, List.map_cons, List.intercalate_cons_cons, htail]
    simp

/-- The text of blocks is read as their sections, after the section without a header. -/
theorem readSections_printBlocks {blocks : List Block} (h : ∀ block ∈ blocks, block.Fits) :
    readSections (String.ofList (printBlocks blocks)) =
      some (⟨[], false, []⟩ :: blocks.map Block.toSection) := by
  have hbegins := printBlocks_begins blocks
  unfold readSections
  rw [String.toList_ofList]
  split
  case h_1 rest heq =>
    rw [heq] at hbegins
    exact absurd rfl hbegins
  case h_2 =>
    dsimp only
    rw [Reader.run_lines h]
    dsimp only [Option.bind_eq_bind, Option.bind_some]
    rw [sectionsOf_blocks]
    rfl

end ApiReference.Toml
