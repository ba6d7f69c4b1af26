import ApiReference.Proofs.Json.Reader

/-!
# Refused Texts

A reader refuses a text if, whatever may follow the text, it stops there with a mismatch.  A list or
an object is refused for the first part that is refused, since the parts before it are read.
-/

namespace ApiReference.Json

open Decode

namespace Reader

variable {α β σ : Type} {reader : Reader α} {what : Mismatch} {text : List Char}

/-! ## Readers that stop -/

/-- A reader stops in a text with a mismatch. -/
def Stops (reader : Reader α) (text : List Char) (what : Mismatch) : Prop :=
  ∃ mark rest, reader.on text = (.error ⟨.mismatch what, mark⟩, rest)

theorem stops_accept (what : Mismatch) (text : List Char) :
    Stops (accept (.error what) : Reader α) text what :=
  ⟨none, text, rfl⟩

namespace Stops

theorem bind (h : Stops reader text what) (next : α → Reader β) :
    Stops (reader >>= next) text what := by
  obtain ⟨mark, rest, hon⟩ := h
  use mark, rest
  have hrun : reader.run.run text = Pure.pure (Except.error ⟨.mismatch what, mark⟩, rest) := hon
  unfold on
  rw [ExceptT.run_bind, StateT.run_bind, hrun]
  rfl

theorem after {first : Reader β} {b : β} {rest : List Char} {next : β → Reader α}
    (hfirst : first.on text = (.ok b, rest)) (h : Stops (next b) rest what) :
    Stops (first >>= next) text what := by
  unfold Stops
  rw [on_bind_of_ok hfirst]
  exact h

theorem map (h : Stops reader text what) (f : α → β) : Stops (f <$> reader) text what := by
  rw [map_eq_pure_bind]
  exact h.bind _

theorem placed (h : Stops reader text what) : Stops (placed reader) text what := by
  obtain ⟨mark, rest, hon⟩ := h
  unfold Stops
  rw [Reader.placed, on_of, hon]
  cases mark with
  | none => exact ⟨_, _, rfl⟩
  | some mark => exact ⟨_, _, rfl⟩

theorem closing (h : Stops reader text what) (finish : Reader Unit) :
    Stops (closing reader finish) text what := by
  obtain ⟨mark, rest, hon⟩ := h
  unfold Stops
  rw [Reader.closing, on_of, hon]
  exact ⟨_, _, rfl⟩

theorem value {read : Char → Reader α} {c : Char} {rest : List Char} (hc : isBlank c = false)
    (h : Stops (read c) (c :: rest) what) : Stops (value read) (c :: rest) what :=
  placed (after (on_peekToken hc rest) h)

theorem readAll (h : Stops reader text what) :
    ∃ place, readAll reader text = .error ⟨.mismatch what, place⟩ := by
  obtain ⟨mark, rest, hon⟩ := h.bind fun value ↦ finished >>= fun _ ↦ pure value
  unfold Reader.readAll
  rw [hon]
  exact ⟨_, rfl⟩

end Stops

/-- A reader finds a mismatch in a text, whatever may follow it.  The text begins like a value. -/
structure Refuses (reader : Reader α) (text : List Char) (what : Mismatch) : Prop where
  begins : ∃ c tail, text = c :: tail ∧ isBlank c = false ∧ c ≠ ']'
  stops : ∀ rest, Ends rest → Stops reader (text ++ rest) what

/-! ### Lists -/

section

variable {texts : List (List Char)} {values : List α}

/-- The items before the one that is refused are read. -/
theorem stops_items_go (h : List.Forall₂ (Reads reader) texts values)
    (hrefused : Refuses reader text what) (later : List (List Char)) (rest : List Char) {fuel : Nat}
    (hfuel : texts.length < fuel) :
    Stops (items.go reader fuel false)
      ((texts ++ text :: later).flatMap (',' :: ·) ++ ']' :: rest) what := by
  induction h generalizing fuel with
  | nil =>
    obtain ⟨fuel, rfl⟩ := Nat.exists_eq_add_one.mpr hfuel
    obtain ⟨c, tail, rfl, hblank, hend⟩ := hrefused.begins
    have hrest := ends_flatMap_comma later (c := ']') (by decide) rest
    have hstops := hrefused.stops _ hrest
    simp only [List.nil_append, List.flatMap_cons, List.cons_append, List.append_assoc] at hstops ⊢
    exact .after (on_nextItem_later hblank hend _) (hstops.bind _)
  | @cons first value texts values hfirst _ ih =>
    obtain ⟨fuel, rfl⟩ := Nat.exists_eq_add_one.mpr (Nat.zero_lt_of_lt hfuel)
    obtain ⟨c, tail, rfl, hblank, hend⟩ := hfirst.begins
    have hrest := ends_flatMap_comma (texts ++ text :: later) (c := ']') (by decide) rest
    have hread := hfirst.result _ hrest
    simp only [List.flatMap_cons, List.cons_append, List.append_assoc] at hread ⊢
    refine .after (on_nextItem_later hblank hend _) (.after hread ?_)
    exact (ih (by simpa using hfuel)).bind _

/-- The first refused item refuses the list. -/
theorem stops_items (h : List.Forall₂ (Reads reader) texts values)
    (hrefused : Refuses reader text what) (later : List (List Char)) (rest : List Char) :
    Stops (items reader) (separated (texts ++ text :: later) ++ ']' :: rest) what := by
  refine .after (on_fuel _) ?_
  cases h with
  | nil =>
    obtain ⟨c, tail, rfl, hblank, hend⟩ := hrefused.begins
    have hrest := ends_flatMap_comma later (c := ']') (by decide) rest
    have hstops := hrefused.stops _ hrest
    simp only [List.nil_append, separated, List.cons_append, List.append_assoc] at hstops ⊢
    exact .after (on_nextItem_first hblank hend _) (hstops.bind _)
  | @cons first value texts values hfirst htexts =>
    obtain ⟨c, tail, rfl, hblank, hend⟩ := hfirst.begins
    have hrest := ends_flatMap_comma (texts ++ text :: later) (c := ']') (by decide) rest
    have hread := hfirst.result _ hrest
    have hlength := length_le_length_flatMap_comma (texts ++ text :: later)
    simp only [separated, List.cons_append, List.append_assoc] at hread ⊢
    refine .after (on_nextItem_first hblank hend _) (.after hread ?_)
    refine (stops_items_go htexts hrefused later rest ?_).bind _
    simp only [List.length_append, List.length_cons] at hlength ⊢
    omega

end

/-! ### Objects -/

section

variable {member : σ → String → Reader σ} {members : List (String × List Char)}
  {state state' : σ} {name : String} {nameText : List Char}

/-- The members before the one that is refused are taken in. -/
theorem stops_foldMembers_go (h : Folds member members state state')
    (hname : SpellsString nameText name.toList)
    (hrefused : ∀ rest, Ends rest → Stops (member state' name) (text ++ rest) what)
    (later : List (List Char)) (rest : List Char) {fuel : Nat} (hfuel : members.length < fuel) :
    Stops (foldMembers.go member fuel false state)
      ((members.map Prod.snd ++ ('"' :: (nameText ++ '"' :: text)) :: later).flatMap (',' :: ·) ++
        '\x7d' :: rest) what := by
  induction h generalizing fuel with
  | nil state =>
    obtain ⟨fuel, rfl⟩ := Nat.exists_eq_add_one.mpr hfuel
    have hrest := ends_flatMap_comma later (c := '\x7d') (by decide) rest
    simp only [List.map_nil, List.nil_append, List.flatMap_cons, List.cons_append,
      List.append_assoc]
    refine .after (on_nextMember_later _) (.after (on_key hname _) ?_)
    exact (hrefused _ hrest).bind _
  | @cons first firstText tail members before state after hfirst hmember _ ih =>
    obtain ⟨fuel, rfl⟩ := Nat.exists_eq_add_one.mpr (Nat.zero_lt_of_lt hfuel)
    have hrest := ends_flatMap_comma
      (members.map Prod.snd ++ ('"' :: (nameText ++ '"' :: text)) :: later) (c := '\x7d')
      (by decide) rest
    have hread := hmember _ hrest
    simp only [List.map_cons, List.flatMap_cons, List.cons_append, List.append_assoc]
    refine .after (on_nextMember_later _) (.after (on_key hfirst _) (.after hread ?_))
    exact ih hrefused (by simpa using hfuel)

/-- The first refused member refuses the object. -/
theorem stops_foldMembers (h : Folds member members state state')
    (hname : SpellsString nameText name.toList)
    (hrefused : ∀ rest, Ends rest → Stops (member state' name) (text ++ rest) what)
    (later : List (List Char)) (rest : List Char) :
    Stops (foldMembers member state)
      (separated (members.map Prod.snd ++ ('"' :: (nameText ++ '"' :: text)) :: later) ++
        '\x7d' :: rest) what := by
  refine .after (on_fuel _) ?_
  cases h with
  | nil =>
    have hrest := ends_flatMap_comma later (c := '\x7d') (by decide) rest
    simp only [List.map_nil, List.nil_append, separated, List.cons_append, List.append_assoc]
    refine .after (on_nextMember_first _) (.after (on_key hname _) ?_)
    exact (hrefused _ hrest).bind _
  | @cons first firstText tail members before state after hfirst hmember hmembers =>
    have hrest := ends_flatMap_comma
      (members.map Prod.snd ++ ('"' :: (nameText ++ '"' :: text)) :: later) (c := '\x7d')
      (by decide) rest
    have hread := hmember _ hrest
    have hlength := length_le_length_flatMap_comma
      (members.map Prod.snd ++ ('"' :: (nameText ++ '"' :: text)) :: later)
    simp only [List.map_cons, separated, List.cons_append, List.append_assoc]
    refine .after (on_nextMember_first _) (.after (on_key hfirst _) (.after hread ?_))
    refine stops_foldMembers_go hmembers hname hrefused later rest ?_
    simp only [List.length_append, List.length_cons, List.length_map] at hlength ⊢
    omega

end

end Reader

end ApiReference.Json
