import ApiReference.Json.Decode
import ApiReference.Json.Tree
import ApiReference.Proofs.Json.Strings

/-!
# What Readers Make of Spelled Texts

A reader reads a text if, whatever may follow the text, it yields the value and stops behind it.
Texts that are read are put together to lists and objects that are read.
-/

namespace ApiReference.Json

open Decode

namespace Reader

variable {α β σ : Type}

/-! ## Steps -/

theorem on_pure (a : α) (rest : List Char) : (pure a : Reader α).on rest = (.ok a, rest) :=
  rfl

theorem on_of (step : List Char → Except Failure α × List Char) (rest : List Char) :
    (of step).on rest = step rest :=
  rfl

theorem on_bind_of_ok {reader : Reader α} {next : α → Reader β} {rest rest' : List Char} {a : α}
    (h : reader.on rest = (.ok a, rest')) : (reader >>= next).on rest = (next a).on rest' := by
  have hrun : reader.run.run rest = pure (Except.ok a, rest') := h
  unfold on
  rw [ExceptT.run_bind, StateT.run_bind, hrun]
  rfl

theorem on_map_of_ok {reader : Reader α} (f : α → β) {rest rest' : List Char} {a : α}
    (h : reader.on rest = (.ok a, rest')) : (f <$> reader).on rest = (.ok (f a), rest') := by
  rw [map_eq_pure_bind, on_bind_of_ok h, on_pure]

theorem on_remaining (rest : List Char) : remaining.on rest = (.ok rest, rest) :=
  rfl

theorem on_resume (next rest : List Char) : (resume next).on rest = (.ok (), next) :=
  rfl

theorem on_fuel (rest : List Char) : fuel.on rest = (.ok (rest.length + 1), rest) :=
  rfl

theorem on_advance (c : Char) (rest : List Char) : advance.on (c :: rest) = (.ok (), rest) :=
  rfl

theorem on_peekToken {c : Char} (hc : isBlank c = false) (rest : List Char) :
    peekToken.on (c :: rest) = (.ok (some c), c :: rest) := by
  show (Except.ok (((c :: rest).dropWhile isBlank).head?), (c :: rest).dropWhile isBlank) = _
  rw [List.dropWhile_cons_of_neg (by simp [hc])]
  rfl

theorem on_placed_of_ok {reader : Reader α} {rest rest' : List Char} {a : α}
    (h : reader.on rest = (.ok a, rest')) : (placed reader).on rest = (.ok a, rest') := by
  rw [placed, on_of, h]

theorem on_closing_of_ok {body : Reader α} {finish : Reader Unit} {rest rest' rest'' : List Char}
    {a : α} (hbody : body.on rest = (.ok a, rest')) (hfinish : finish.on rest' = (.ok (), rest'')) :
    (closing body finish).on rest = (.ok a, rest'') := by
  simp only [closing, on_of, hbody, hfinish]

theorem on_value_of_ok {read : Char → Reader α} {c : Char} {rest rest' : List Char} {a : α}
    (hc : isBlank c = false) (h : (read c).on (c :: rest) = (.ok a, rest')) :
    (value read).on (c :: rest) = (.ok a, rest') := by
  refine on_placed_of_ok ?_
  rw [on_bind_of_ok (on_peekToken hc rest)]
  exact h

theorem on_accept {result : Except Mismatch α} {a : α} (h : result = .ok a) (rest : List Char) :
    (accept result).on rest = (.ok a, rest) := by
  subst h
  rfl

theorem on_word (cs rest : List Char) : (word cs).on (cs ++ rest) = (.ok (), rest) := by
  induction cs with
  | nil => rfl
  | cons c cs ih =>
    rw [word, on_bind_of_ok (on_remaining _)]
    simp only [List.cons_append, if_pos]
    rw [on_bind_of_ok (on_resume (cs ++ rest) _), ih]

/-- A spelled text is read up to its closing quote. -/
theorem on_stringRest {text : List Char} {content : String}
    (h : SpellsString text content.toList) (rest : List Char) :
    stringRest.on (text ++ '"' :: rest) = (.ok content, rest) := by
  rw [stringRest, scan, on_of, h rest]
  simp only [Except.map, String.ofList_toList]

theorem on_key {text : List Char} {content : String} (h : SpellsString text content.toList)
    (rest : List Char) : key.on ('"' :: (text ++ '"' :: rest)) = (.ok content, rest) := by
  rw [key, on_bind_of_ok (on_advance '"' _), on_stringRest h]

theorem on_colon (rest : List Char) : colon.on (':' :: rest) = (.ok (), rest) := by
  rw [colon, on_bind_of_ok (on_peekToken (by decide) _)]
  exact on_advance ':' rest

theorem on_closeList (rest : List Char) : closeList.on (']' :: rest) = (.ok (), rest) := by
  rw [closeList, on_bind_of_ok (on_peekToken (by decide) _)]
  exact on_advance ']' rest

theorem on_closeObject (rest : List Char) : closeObject.on ('\x7d' :: rest) = (.ok (), rest) := by
  rw [closeObject, on_bind_of_ok (on_peekToken (by decide) _)]
  exact on_advance '\x7d' rest

/-! ## Texts that are read whole -/

/-- What may follow a value: the end of the text, a comma or the end of a container. -/
def Ends (rest : List Char) : Prop :=
  ∀ c ∈ rest.head?, c ∈ [',', ']', '\x7d']

theorem ends_nil : Ends [] := by
  simp [Ends]

theorem ends_cons {c : Char} (hc : c ∈ [',', ']', '\x7d']) (rest : List Char) :
    Ends (c :: rest) := by
  simpa [Ends] using hc

/-- A text that a reader reads up to its end.  It begins like a value. -/
structure Reads (reader : Reader α) (text : List Char) (a : α) : Prop where
  begins : ∃ c tail, text = c :: tail ∧ isBlank c = false ∧ c ≠ ']'
  result : ∀ rest, Ends rest → reader.on (text ++ rest) = (.ok a, rest)

/-- Texts with commas between them. -/
def separated : List (List Char) → List Char
  | [] => []
  | text :: texts => text ++ texts.flatMap (',' :: ·)

theorem length_le_length_flatMap_comma (texts : List (List Char)) :
    texts.length ≤ (texts.flatMap (',' :: ·)).length := by
  induction texts with
  | nil => simp
  | cons text texts ih =>
    simp only [List.flatMap_cons, List.length_append, List.length_cons]
    omega

/-- What follows the text of a value in a container. -/
theorem ends_flatMap_comma (texts : List (List Char)) {c : Char} (hc : c ∈ [',', ']', '\x7d'])
    (rest : List Char) : Ends (texts.flatMap (',' :: ·) ++ c :: rest) := by
  cases texts with
  | nil => exact ends_cons hc rest
  | cons text texts => exact ends_cons (by decide) _

/-! ### Lists -/

theorem on_nextItem_end (first : Bool) (rest : List Char) :
    (nextItem first).on (']' :: rest) = (.ok false, ']' :: rest) := by
  rw [nextItem, on_bind_of_ok (on_peekToken (by decide) _)]
  rfl

theorem on_nextItem_first {c : Char} (hblank : isBlank c = false) (hend : c ≠ ']')
    (rest : List Char) : (nextItem true).on (c :: rest) = (.ok true, c :: rest) := by
  rw [nextItem, on_bind_of_ok (on_peekToken hblank _)]
  split
  · simp_all
  · simp_all
  · rfl

theorem on_nextItem_later {c : Char} (hblank : isBlank c = false) (hend : c ≠ ']')
    (rest : List Char) : (nextItem false).on (',' :: c :: rest) = (.ok true, c :: rest) := by
  rw [nextItem, on_bind_of_ok (on_peekToken (by decide) _)]
  show (advance >>= _).on _ = _
  rw [on_bind_of_ok (on_advance ',' _), on_bind_of_ok (on_peekToken hblank _)]
  split
  · simp_all
  · rfl
  · simp_all

/-- Behind the first item, every further one comes with its comma. -/
theorem on_items_go {item : Reader α} {texts : List (List Char)} {values : List α}
    (h : List.Forall₂ (Reads item) texts values) (rest : List Char) {fuel : Nat}
    (hfuel : texts.length < fuel) :
    (items.go item fuel false).on (texts.flatMap (',' :: ·) ++ ']' :: rest) =
      (.ok values, ']' :: rest) := by
  induction h generalizing fuel with
  | nil =>
    obtain ⟨fuel, rfl⟩ := Nat.exists_eq_add_one.mpr hfuel
    rw [List.flatMap_nil, List.nil_append, items.go, on_bind_of_ok (on_nextItem_end false rest)]
    rfl
  | @cons text value texts values hitem _ ih =>
    obtain ⟨fuel, rfl⟩ := Nat.exists_eq_add_one.mpr (Nat.zero_lt_of_lt hfuel)
    obtain ⟨c, tail, rfl, hblank, hend⟩ := hitem.begins
    have hrest := ends_flatMap_comma texts (c := ']') (by decide) rest
    simp only [List.flatMap_cons, List.cons_append, List.append_assoc]
    rw [items.go, on_bind_of_ok (on_nextItem_later hblank hend _)]
    simp only [if_true]
    rw [← List.cons_append, on_bind_of_ok (hitem.result _ hrest),
      on_bind_of_ok (ih (by simpa using hfuel))]
    rfl

/-- Items between commas are read in their order. -/
theorem on_items {item : Reader α} {texts : List (List Char)} {values : List α}
    (h : List.Forall₂ (Reads item) texts values) (rest : List Char) :
    (items item).on (separated texts ++ ']' :: rest) = (.ok values, ']' :: rest) := by
  rw [items, on_bind_of_ok (on_fuel _)]
  cases h with
  | nil =>
    rw [separated, List.nil_append, items.go, on_bind_of_ok (on_nextItem_end true rest)]
    rfl
  | @cons text value texts values hitem hitems =>
    obtain ⟨c, tail, rfl, hblank, hend⟩ := hitem.begins
    have hrest := ends_flatMap_comma texts (c := ']') (by decide) rest
    have hlength := length_le_length_flatMap_comma texts
    simp only [separated, List.cons_append, List.append_assoc]
    rw [items.go, on_bind_of_ok (on_nextItem_first hblank hend _)]
    simp only [if_true]
    rw [← List.cons_append, on_bind_of_ok (hitem.result _ hrest),
      on_bind_of_ok (on_items_go hitems rest (by
        simp only [List.length_append, List.length_cons]; omega))]
    rfl

/-! ### Objects -/

theorem on_nextMember_end (first : Bool) (rest : List Char) :
    (nextMember first).on ('\x7d' :: rest) = (.ok false, '\x7d' :: rest) := by
  rw [nextMember, on_bind_of_ok (on_peekToken (by decide) _)]
  rfl

theorem on_nextMember_first (rest : List Char) :
    (nextMember true).on ('"' :: rest) = (.ok true, '"' :: rest) := by
  rw [nextMember, on_bind_of_ok (on_peekToken (by decide) _)]
  rfl

theorem on_nextMember_later (rest : List Char) :
    (nextMember false).on (',' :: '"' :: rest) = (.ok true, '"' :: rest) := by
  rw [nextMember, on_bind_of_ok (on_peekToken (by decide) _)]
  show (advance >>= _).on _ = _
  rw [on_bind_of_ok (on_advance ',' _), on_bind_of_ok (on_peekToken (by decide) _)]
  rfl

/-- Members that a fold takes in one after another, by name and whole text: the name as a string and
what follows it. -/
inductive Folds (member : σ → String → Reader σ) : List (String × List Char) → σ → σ → Prop
  | nil (state : σ) : Folds member [] state state
  | cons {name : String} {nameText text : List Char} {members : List (String × List Char)}
      {state state' final : σ} (hname : SpellsString nameText name.toList)
      (hmember : ∀ rest, Ends rest → (member state name).on (text ++ rest) = (.ok state', rest))
      (hmembers : Folds member members state' final) :
      Folds member ((name, '"' :: (nameText ++ '"' :: text)) :: members) state final

theorem on_foldMembers_go {member : σ → String → Reader σ} {members : List (String × List Char)}
    {state final : σ} (h : Folds member members state final) (rest : List Char) {fuel : Nat}
    (hfuel : members.length < fuel) :
    (foldMembers.go member fuel false state).on
        ((members.map Prod.snd).flatMap (',' :: ·) ++ '\x7d' :: rest) =
      (.ok final, '\x7d' :: rest) := by
  induction h generalizing fuel with
  | nil state =>
    obtain ⟨fuel, rfl⟩ := Nat.exists_eq_add_one.mpr hfuel
    rw [List.map_nil, List.flatMap_nil, List.nil_append, foldMembers.go,
      on_bind_of_ok (on_nextMember_end false rest)]
    rfl
  | @cons name nameText text members state state' final hname hmember _ ih =>
    obtain ⟨fuel, rfl⟩ := Nat.exists_eq_add_one.mpr (Nat.zero_lt_of_lt hfuel)
    have hrest := ends_flatMap_comma (members.map Prod.snd) (c := '\x7d') (by decide) rest
    simp only [List.map_cons, List.flatMap_cons, List.cons_append, List.append_assoc]
    rw [foldMembers.go, on_bind_of_ok (on_nextMember_later _)]
    simp only [if_true]
    rw [on_bind_of_ok (on_key hname _), on_bind_of_ok (hmember _ hrest)]
    exact ih (by simpa using hfuel)

/-- Members between commas are taken in their order. -/
theorem on_foldMembers {member : σ → String → Reader σ} {members : List (String × List Char)}
    {initial final : σ} (h : Folds member members initial final) (rest : List Char) :
    (foldMembers member initial).on (separated (members.map Prod.snd) ++ '\x7d' :: rest) =
      (.ok final, '\x7d' :: rest) := by
  rw [foldMembers, on_bind_of_ok (on_fuel _)]
  cases h with
  | nil =>
    rw [List.map_nil, separated, List.nil_append, foldMembers.go,
      on_bind_of_ok (on_nextMember_end true rest)]
    rfl
  | @cons name nameText text members _ state' _ hname hmember hmembers =>
    have hrest := ends_flatMap_comma (members.map Prod.snd) (c := '\x7d') (by decide) rest
    have hlength := length_le_length_flatMap_comma (members.map Prod.snd)
    rw [List.length_map] at hlength
    simp only [List.map_cons, separated, List.cons_append, List.append_assoc]
    rw [foldMembers.go, on_bind_of_ok (on_nextMember_first _)]
    simp only [if_true]
    rw [on_bind_of_ok (on_key hname _), on_bind_of_ok (hmember _ hrest)]
    exact on_foldMembers_go hmembers rest (by
      simp only [List.length_append, List.length_cons]; omega)

theorem on_enclosedObject {body : Reader α} {text rest : List Char} {a : α}
    (h : body.on (text ++ '\x7d' :: rest) = (.ok a, '\x7d' :: rest)) :
    (enclosedObject body).on ('\x7b' :: (text ++ '\x7d' :: rest)) = (.ok a, rest) := by
  rw [enclosedObject, on_bind_of_ok (on_advance '\x7b' _)]
  exact on_closing_of_ok h (on_closeObject rest)

/-! ### Whole texts -/

/-- What a reader makes of a text whatever follows it is read where nothing follows. -/
theorem readAll_of_reads {reader : Reader α} {text : List Char} {a : α}
    (h : Reads reader text a) : readAll reader text = .ok a := by
  have hresult : reader.on text = (.ok a, []) := by
    simpa using h.result [] ends_nil
  rw [readAll, on_bind_of_ok hresult]
  rfl

end Reader

end ApiReference.Json
