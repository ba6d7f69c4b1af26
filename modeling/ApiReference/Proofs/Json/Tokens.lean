import ApiReference.Proofs.Decode.Fields
import ApiReference.Proofs.Json.Builder

/-!
# Texts That Readers Accept

A JSON text is made of marks and strings, and before each of them there may be blanks.  What a
reader accepts is described by them alone: how a string may be spelled, and which marks stand
between the items of a list and the members of an object.
-/

namespace ApiReference.Json

open Decode Text

/-! ## Strings -/

/-- How one character may be written in a string: as it is, with a short escape, with the code unit
that it is, or with the two code units of its surrogate pair. -/
inductive SpelledChar : List Char → Char → Prop
  | plain {c : Char} (hquote : c ≠ '"') (hbackslash : c ≠ '\\') (hcontrol : ¬c.toNat < 0x20) :
    SpelledChar [c] c
  | short {letter c : Char} (hescape : shortEscape? letter = some c) :
    SpelledChar ['\\', letter] c
  | unit {a b c d : Char} {unit : Nat} (hunit : hexNumber? [a, b, c, d] = some unit)
    (hleading : isLeading unit = false) (htrailing : isTrailing unit = false) :
    SpelledChar ['\\', 'u', a, b, c, d] (Char.ofNat unit)
  | pair {a b c d e f g h : Char} {leading trailing : Nat}
    (hleading : hexNumber? [a, b, c, d] = some leading) (hisLeading : isLeading leading = true)
    (htrailing : hexNumber? [e, f, g, h] = some trailing)
    (hisTrailing : isTrailing trailing = true) :
    SpelledChar ['\\', 'u', a, b, c, d, '\\', 'u', e, f, g, h] (ofPair leading trailing)

/-- How the characters of a string may be written, one after another. -/
inductive SpelledString : List Char → List Char → Prop
  | nil : SpelledString [] []
  | cons {text : List Char} {c : Char} {body cs : List Char} (hc : SpelledChar text c)
    (hcs : SpelledString body cs) : SpelledString (text ++ body) (c :: cs)

/-- No code unit is the first and the second of a surrogate pair. -/
theorem isTrailing_of_isLeading {unit : Nat} (h : isLeading unit = true) :
    isTrailing unit = false := by
  simp only [isLeading, isTrailing, Bool.and_eq_true, decide_eq_true_eq, Bool.and_eq_false_iff,
    decide_eq_false_iff_not] at h ⊢
  omega

theorem spellsChar_pair {a b c d e f g h : Char} {leading trailing : Nat}
    (hleading : hexNumber? [a, b, c, d] = some leading) (hisLeading : isLeading leading = true)
    (htrailing : hexNumber? [e, f, g, h] = some trailing)
    (hisTrailing : isTrailing trailing = true) :
    SpellsChar ['\\', 'u', a, b, c, d, '\\', 'u', e, f, g, h] (ofPair leading trailing) := by
  intro rest
  show stringBody ('\\' :: 'u' :: a :: b :: c :: d :: '\\' :: 'u' :: e :: f :: g :: h :: rest) = _
  rw [stringBody, hleading]
  simp only [isTrailing_of_isLeading hisLeading, hisLeading, htrailing, hisTrailing,
    Bool.false_eq_true, if_false, if_true]

/-- A character is read from each of its spellings. -/
theorem SpelledChar.spellsChar {text : List Char} {c : Char} (h : SpelledChar text c) :
    SpellsChar text c := by
  cases h with
  | plain hquote hbackslash hcontrol => exact spellsChar_self hquote hbackslash hcontrol
  | @short letter _ hescape =>
    apply spellsChar_short _ hescape
    rintro rfl
    cases hescape
  | unit hunit hleading htrailing => exact spellsChar_unicode hunit htrailing hleading
  | pair hleading hisLeading htrailing hisTrailing =>
    exact spellsChar_pair hleading hisLeading htrailing hisTrailing

theorem SpelledString.spellsString {text cs : List Char} (h : SpelledString text cs) :
    SpellsString text cs := by
  intro rest
  induction h with
  | nil =>
    show stringBody ('"' :: rest) = _
    rw [stringBody]
  | cons hc _ ih =>
    rw [List.append_assoc, hc.spellsChar, ih]
    rfl

theorem failInHex_ne_ok {α : Type} (rest : List Char) (a : α) : failInHex rest ≠ .ok a := by
  unfold failInHex
  split_ifs
  · exact fun h ↦ by cases h
  · exact fun h ↦ by cases h

/-- One more spelled character before a string that is read. -/
theorem exists_spelled_cons {chunk text cs rest : List Char} {c : Char}
    (hc : SpelledChar chunk c) (h : ∃ body, SpelledString body cs ∧ text = body ++ '"' :: rest) :
    ∃ body, SpelledString body (c :: cs) ∧ chunk ++ text = body ++ '"' :: rest := by
  obtain ⟨body, hbody, rfl⟩ := h
  exact ⟨chunk ++ body, .cons hc hbody, (List.append_assoc _ _ _).symm⟩

/-- Only spelled strings are read. -/
theorem exists_of_stringBody {text cs rest : List Char} (h : stringBody text = .ok (cs, rest)) :
    ∃ body, SpelledString body cs ∧ text = body ++ '"' :: rest := by
  fun_induction stringBody text generalizing cs rest with
  | case2 =>
    cases h
    exact ⟨[], .nil, rfl⟩
  | case6 a b c d leading hleading _ hisLeading e f g h text trailing htrailing hisTrailing ih =>
    obtain ⟨⟨cs, rest⟩, htext, heq⟩ := exists_of_map_eq_ok h
    cases heq
    exact exists_spelled_cons (.pair hleading hisLeading htrailing hisTrailing) (ih htext)
  | case13 a b c d text unit hunit htrailing hleading ih =>
    obtain ⟨⟨cs, rest⟩, htext, heq⟩ := exists_of_map_eq_ok h
    cases heq
    rw [Bool.not_eq_true] at htrailing hleading
    exact exists_spelled_cons (.unit hunit hleading htrailing) (ih htext)
  | case16 letter text _ _ c hescape ih =>
    obtain ⟨⟨cs, rest⟩, htext, heq⟩ := exists_of_map_eq_ok h
    cases heq
    exact exists_spelled_cons (.short hescape) (ih htext)
  | case19 c text hquote _ _ hlast hmore hcontrol ih =>
    obtain ⟨⟨cs, rest⟩, htext, heq⟩ := exists_of_map_eq_ok h
    cases heq
    have hbackslash : c ≠ '\\' := by
      intro hc
      cases text with
      | nil => exact hlast hc rfl
      | cons d text => exact hmore d text hc rfl
    exact exists_spelled_cons (.plain hquote hbackslash hcontrol) (ih htext)
  | case3 | case5 | case10 | case14 => exact absurd h (failInHex_ne_ok _ _)
  | case1 | case4 | case7 | case8 | case9 | case11 | case12 | case15 | case17 | case18 => cases h

/-- A string between its quotes. -/
def IsQuoted (token : List Char) (content : String) : Prop :=
  ∃ body, SpelledString body content.toList ∧ token = '"' :: (body ++ ['"'])

/-- How a character is printed is one of its spellings. -/
theorem spelledChar_escapeChar (c : Char) : SpelledChar (escapeChar c) c := by
  unfold escapeChar
  split
  case h_8 hquote hbackslash _ _ _ _ _ =>
    split
    case isTrue hcontrol =>
      obtain ⟨hleading, htrailing⟩ := isLeading_control c.toNat hcontrol
      have hspelled :=
        SpelledChar.unit (hexNumber?_control c.toNat hcontrol) hleading htrailing
      rwa [Char.ofNat_toNat] at hspelled
    case isFalse hcontrol => exact .plain hquote hbackslash hcontrol
  all_goals exact .short rfl

/-- A printed string spells its contents, whatever they are. -/
theorem isQuoted_stringText (content : String) : IsQuoted (stringText content.toList) content := by
  refine ⟨content.toList.flatMap escapeChar, ?_, rfl⟩
  induction content.toList with
  | nil => exact .nil
  | cons c cs ih =>
    rw [List.flatMap_cons]
    exact .cons (spelledChar_escapeChar c) ih

/-! ## Marks and strings with blanks before them -/

/-- A text of nothing but blanks. -/
def Blanks (text : List Char) : Prop :=
  ∀ c ∈ text, isBlank c = true

/-- A text that begins with some tokens, each with blanks before it, and goes on with `rest`. -/
inductive Spaced : List (List Char) → List Char → List Char → Prop
  | nil (rest : List Char) : Spaced [] rest rest
  | cons {token : List Char} {tokens : List (List Char)} {blanks text rest : List Char}
    (hblanks : Blanks blanks) (htokens : Spaced tokens text rest) :
    Spaced (token :: tokens) (blanks ++ (token ++ text)) rest

theorem exists_blanks (text : List Char) :
    ∃ blanks, Blanks blanks ∧ text = blanks ++ text.dropWhile isBlank :=
  ⟨text.takeWhile isBlank, fun _ hc ↦ List.mem_takeWhile_imp hc,
    List.takeWhile_append_dropWhile.symm⟩

theorem dropWhile_blanks {blanks : List Char} (h : Blanks blanks) (text : List Char) :
    (blanks ++ text).dropWhile isBlank = text.dropWhile isBlank :=
  List.dropWhile_append_of_pos h

theorem dropWhile_eq_self {c : Char} (hc : isBlank c = false) (text : List Char) :
    (c :: text).dropWhile isBlank = c :: text :=
  List.dropWhile_cons_of_neg (by simp [hc])

namespace Spaced

variable {tokens tokens' : List (List Char)} {token text mid rest : List Char} {c : Char}

/-- There need be no blanks. -/
theorem flatten (tokens : List (List Char)) (rest : List Char) :
    Spaced tokens (tokens.flatten ++ rest) rest := by
  induction tokens with
  | nil => exact .nil rest
  | cons token tokens ih =>
    have hspaced : Spaced (token :: tokens) ([] ++ (token ++ (tokens.flatten ++ rest))) rest :=
      .cons (by simp [Blanks]) ih
    rwa [List.nil_append, ← List.append_assoc] at hspaced

theorem append (h : Spaced tokens text mid) (h' : Spaced tokens' mid rest) :
    Spaced (tokens ++ tokens') text rest := by
  induction h with
  | nil => exact h'
  | cons hblanks _ ih => exact .cons hblanks (ih h')

theorem append_iff : Spaced (tokens ++ tokens') text rest ↔
    ∃ mid, Spaced tokens text mid ∧ Spaced tokens' mid rest := by
  constructor
  · intro h
    induction tokens generalizing text with
    | nil => exact ⟨text, .nil text, h⟩
    | cons token tokens ih =>
      cases h with
      | cons hblanks htokens =>
        obtain ⟨mid, hmid, hrest⟩ := ih htokens
        exact ⟨mid, .cons hblanks hmid, hrest⟩
  · rintro ⟨mid, hmid, hrest⟩
    exact hmid.append hrest

/-- The first of some tokens stands behind the blanks. -/
theorem cons_iff (hc : isBlank c = false) : Spaced ((c :: token) :: tokens) text rest ↔
    ∃ tail, text.dropWhile isBlank = c :: (token ++ tail) ∧ Spaced tokens tail rest := by
  constructor
  · intro h
    cases h with
    | @cons _ _ blanks tail _ hblanks htokens =>
      refine ⟨tail, ?_, htokens⟩
      rw [dropWhile_blanks hblanks]
      exact dropWhile_eq_self hc _
  · rintro ⟨tail, htail, htokens⟩
    obtain ⟨blanks, hblanks, htext⟩ := exists_blanks text
    rw [htext, htail]
    exact .cons hblanks htokens

theorem mark_iff (hc : isBlank c = false) :
    Spaced [[c]] text rest ↔ text.dropWhile isBlank = c :: rest := by
  rw [cons_iff hc]
  constructor
  · rintro ⟨tail, htail, htokens⟩
    cases htokens
    exact htail
  · intro h
    exact ⟨rest, h, .nil rest⟩

/-- Blanks before the first token do not matter. -/
theorem dropWhile_iff (hc : isBlank c = false) :
    Spaced ((c :: token) :: tokens) (text.dropWhile isBlank) rest ↔
      Spaced ((c :: token) :: tokens) text rest := by
  rw [cons_iff hc, cons_iff hc, List.dropWhile_idempotent]

/-- The tokens take room in the text. -/
theorem length_le (h : Spaced tokens text rest) :
    tokens.flatten.length + rest.length ≤ text.length := by
  induction h with
  | nil => simp
  | cons _ _ ih =>
    simp only [List.flatten_cons, List.length_append] at ih ⊢
    omega

end Spaced

namespace Reader

variable {α β : Type} {reader : Reader α} {text rest : List Char}

/-! ## Steps that succeed -/

theorem on_bind_eq_ok_iff {next : α → Reader β} {b : β} :
    (reader >>= next).on text = (.ok b, rest) ↔
      ∃ a mid, reader.on text = (.ok a, mid) ∧ (next a).on mid = (.ok b, rest) := by
  constructor
  · intro h
    cases hfirst : reader.on text with
    | mk result mid =>
      have hstep : reader.run.run text = pure (result, mid) := hfirst
      unfold on at h
      rw [ExceptT.run_bind, StateT.run_bind, hstep] at h
      cases result with
      | error failure => cases h
      | ok a => exact ⟨a, mid, rfl, h⟩
  · rintro ⟨a, mid, hfirst, hnext⟩
    rw [on_bind_of_ok hfirst, hnext]

theorem on_map_eq_ok_iff {f : α → β} {b : β} : (f <$> reader).on text = (.ok b, rest) ↔
    ∃ a, reader.on text = (.ok a, rest) ∧ f a = b := by
  rw [map_eq_pure_bind, on_bind_eq_ok_iff]
  constructor
  · rintro ⟨a, mid, hfirst, hpure⟩
    cases hpure
    exact ⟨a, hfirst, rfl⟩
  · rintro ⟨a, hfirst, rfl⟩
    exact ⟨a, rest, hfirst, rfl⟩

theorem on_placed_eq_ok_iff {a : α} :
    (placed reader).on text = (.ok a, rest) ↔ reader.on text = (.ok a, rest) := by
  constructor
  · intro h
    cases hread : reader.on text with
    | mk result mid =>
      rw [placed, on_of, hread] at h
      cases result with
      | ok b => exact h
      | error failure =>
        obtain ⟨cause, mark⟩ := failure
        cases mark with
        | none => cases h
        | some mark => cases h
  · exact on_placed_of_ok

theorem on_closing_eq_ok_iff {finish : Reader Unit} {a : α} :
    (closing reader finish).on text = (.ok a, rest) ↔
      ∃ mid, reader.on text = (.ok a, mid) ∧ finish.on mid = (.ok (), rest) := by
  constructor
  · intro h
    cases hread : reader.on text with
    | mk result mid =>
      cases result with
      | error failure =>
        simp only [closing, on_of, hread] at h
        cases h
      | ok b =>
        cases hfinish : finish.on mid with
        | mk result' last =>
          simp only [closing, on_of, hread, hfinish] at h
          cases result' with
          | error failure => cases h
          | ok _ =>
            cases h
            exact ⟨mid, rfl, hfinish⟩
  · rintro ⟨mid, hread, hfinish⟩
    exact on_closing_of_ok hread hfinish

theorem on_peek_bind (next : Option Char → Reader α) (text : List Char) :
    (peekToken >>= next).on text =
      (next (text.dropWhile isBlank).head?).on (text.dropWhile isBlank) :=
  on_bind_of_ok rfl

theorem not_on_malformed (what : Malformed) (ahead : Nat) (a : α) :
    (malformed what ahead).on text ≠ (.ok a, rest) :=
  Gives.malformed (P := fun _ ↦ False) what ahead text rest a

theorem on_value_eq_ok_iff {read : Char → Reader α} {a : α} :
    (value read).on text = (.ok a, rest) ↔ ∃ c tail, text.dropWhile isBlank = c :: tail ∧
      (read c).on (c :: tail) = (.ok a, rest) := by
  rw [value, on_placed_eq_ok_iff, on_peek_bind]
  cases text.dropWhile isBlank with
  | nil =>
    apply iff_of_false (not_on_malformed _ _ a)
    rintro ⟨c, tail, heq, -⟩
    cases heq
  | cons c tail =>
    constructor
    · intro h
      exact ⟨c, tail, rfl, h⟩
    · rintro ⟨d, tail', heq, h⟩
      cases heq
      exact h

/-- What is of the wrong type is never read. -/
theorem not_on_wrongType (expected : String) (c : Char) (a : α) :
    (wrongType expected c).on text ≠ (.ok a, rest) := by
  have hgives : Gives (fun _ : α ↦ False) (wrongType expected c) := by
    unfold wrongType
    split
    · exact .after fun _ ↦ .mismatch _
    · exact .ite (fun _ ↦ .mismatch _) fun _ ↦ .ite (fun _ ↦ .mismatch _) fun _ ↦ .malformed _ _
  exact hgives text rest a

/-! ## Marks and strings -/

theorem on_stringRest_eq_ok_iff {content : String} :
    stringRest.on text = (.ok content, rest) ↔
      ∃ body, SpelledString body content.toList ∧ text = body ++ '"' :: rest := by
  constructor
  · intro h
    rw [stringRest, scan, on_of] at h
    cases hbody : stringBody text with
    | error failure =>
      rw [hbody] at h
      cases h
    | ok result =>
      rw [hbody] at h
      obtain ⟨cs, tail⟩ := result
      cases h
      rw [String.toList_ofList]
      exact exists_of_stringBody hbody
  · rintro ⟨body, hbody, rfl⟩
    exact on_stringRest hbody.spellsString rest

theorem on_advance_cons (c : Char) (next : Unit → Reader α) (text : List Char) :
    (advance >>= next).on (c :: text) = (next ()).on text :=
  on_bind_of_ok (on_advance c text)

/-- A string is read just where one stands between its quotes. -/
theorem on_string_eq_ok_iff {expected content : String} :
    (string expected).on text = (.ok content, rest) ↔
      ∃ token, IsQuoted token content ∧ Spaced [token] text rest := by
  rw [string, on_value_eq_ok_iff]
  constructor
  · rintro ⟨c, tail, htext, hread⟩
    by_cases hc : c = '"'
    · subst hc
      rw [if_pos rfl, on_advance_cons, on_stringRest_eq_ok_iff] at hread
      obtain ⟨body, hbody, rfl⟩ := hread
      refine ⟨_, ⟨body, hbody, rfl⟩, (Spaced.cons_iff (by decide)).mpr ⟨rest, ?_, .nil rest⟩⟩
      rw [htext, List.append_assoc]
      rfl
    · rw [if_neg hc] at hread
      exact absurd hread (not_on_wrongType expected c content)
  · rintro ⟨token, ⟨body, hbody, rfl⟩, hspaced⟩
    obtain ⟨tail, htext, htail⟩ := (Spaced.cons_iff (by decide)).mp hspaced
    cases htail
    refine ⟨'"', body ++ '"' :: rest, ?_, ?_⟩
    · rw [htext, List.append_assoc]
      rfl
    · rw [if_pos rfl, on_advance_cons, on_stringRest hbody.spellsString]

theorem on_key_eq_ok_iff {content : String} : key.on ('"' :: text) = (.ok content, rest) ↔
    ∃ token, IsQuoted token content ∧ '"' :: text = token ++ rest := by
  rw [key, on_advance_cons, on_stringRest_eq_ok_iff]
  constructor
  · rintro ⟨body, hbody, rfl⟩
    exact ⟨_, ⟨body, hbody, rfl⟩, by simp⟩
  · rintro ⟨_, ⟨body, hbody, rfl⟩, heq⟩
    exact ⟨body, hbody, by simpa using heq⟩

/-- A reader of one mark. -/
def TakesMark (reader : Reader Unit) (c : Char) : Prop :=
  ∀ text rest, reader.on text = (.ok (), rest) ↔ Spaced [[c]] text rest

/-- A reader that passes over one mark and gives nothing else takes the mark. -/
theorem takesMark_of {c : Char} (hc : isBlank c = false) {next : Option Char → Reader Unit}
    (hmark : next (some c) = advance)
    (hother : ∀ d?, d? ≠ some c → Gives (fun _ ↦ False) (next d?)) :
    TakesMark (peekToken >>= next) c := by
  intro text rest
  rw [Spaced.mark_iff hc, on_peek_bind]
  by_cases hhead : (text.dropWhile isBlank).head? = some c
  · obtain ⟨tail, htext⟩ := List.head?_eq_some_iff.mp hhead
    rw [hhead, hmark, htext, on_advance]
    simp
  · apply iff_of_false
    · exact hother _ hhead _ rest ()
    · intro htext
      rw [htext] at hhead
      exact hhead rfl

theorem takesMark_colon : TakesMark colon ':' := by
  unfold colon
  apply takesMark_of (by decide) rfl
  intro d? hd
  split
  · exact absurd rfl hd
  · exact .malformed _ _
  · exact .malformed _ _

theorem takesMark_closeList : TakesMark closeList ']' := by
  unfold closeList
  apply takesMark_of (by decide) rfl
  intro d? hd
  split
  · exact absurd rfl hd
  · refine .after fun _ ↦ .after fun e? ↦ ?_
    split
    · exact .malformed _ _
    · exact .malformed _ _
  · exact .malformed _ _
  · exact .malformed _ _

theorem takesMark_closeObject : TakesMark closeObject '\x7d' := by
  unfold closeObject
  apply takesMark_of (by decide) rfl
  intro d? hd
  split
  · exact absurd rfl hd
  · exact .malformed _ _
  · exact .malformed _ _
  · exact .malformed _ _

theorem on_finished_eq_ok_iff : finished.on text = (.ok (), rest) ↔ Blanks text ∧ rest = [] := by
  rw [finished, on_peek_bind]
  cases htext : text.dropWhile isBlank with
  | nil =>
    have hblanks : Blanks text := List.dropWhile_eq_nil_iff.mp htext
    constructor
    · intro h
      cases h
      exact ⟨hblanks, rfl⟩
    · rintro ⟨-, rfl⟩
      rfl
  | cons c tail =>
    apply iff_of_false (not_on_malformed _ _ ())
    rintro ⟨hblanks, -⟩
    rw [List.dropWhile_eq_nil_iff.mpr hblanks] at htext
    cases htext

/-- A text is read whole just where nothing but blanks follows what is read of it. -/
theorem readAll_eq_ok_iff {a : α} : readAll reader text = .ok a ↔
    ∃ rest, reader.on text = (.ok a, rest) ∧ Blanks rest := by
  have hon (b : α) (last : List Char) :
      (reader >>= fun value ↦ finished >>= fun _ ↦ pure value).on text = (.ok b, last) ↔
        ∃ mid, reader.on text = (.ok b, mid) ∧ Blanks mid ∧ last = [] := by
    constructor
    · intro h
      obtain ⟨value, mid, hread, h⟩ := on_bind_eq_ok_iff.mp h
      obtain ⟨_, _, hfinished, h⟩ := on_bind_eq_ok_iff.mp h
      obtain ⟨hblanks, rfl⟩ := on_finished_eq_ok_iff.mp hfinished
      cases h
      exact ⟨mid, hread, hblanks, rfl⟩
    · rintro ⟨mid, hread, hblanks, rfl⟩
      rw [on_bind_of_ok hread, on_bind_of_ok (on_finished_eq_ok_iff.mpr ⟨hblanks, rfl⟩), on_pure]
  unfold readAll
  cases hread : (reader >>= fun value ↦ finished >>= fun _ ↦ pure value).on text with
  | mk result last =>
    cases result with
    | error failure =>
      apply iff_of_false
      · intro h
        cases h
      · rintro ⟨mid, hmid, hblanks⟩
        rw [(hon a []).mpr ⟨mid, hmid, hblanks, rfl⟩] at hread
        cases hread
    | ok b =>
      obtain ⟨mid, hmid, hblanks, -⟩ := (hon b last).mp hread
      constructor
      · intro h
        cases h
        exact ⟨mid, hmid, hblanks⟩
      · rintro ⟨mid', hmid', -⟩
        rw [hmid] at hmid'
        cases hmid'
        rfl

/-- What stops a reader is the fault of the whole text. -/
theorem readAll_of_error {failure : Failure} (h : reader.on text = (.error failure, rest)) :
    readAll reader text = .error (failure.inText text) := by
  have hrun : reader.run.run text = pure (Except.error failure, rest) := h
  unfold readAll on
  rw [ExceptT.run_bind, StateT.run_bind, hrun]
  rfl

/-! ## Items and members -/

/-- What stands before an item or a member: a comma, but nothing before the first. -/
def separator (first : Bool) : List (List Char) :=
  if first then [] else [[',']]

/-- Whether another part of a container follows: its closing mark is next, or the separator and a
character that may begin a part. -/
inductive NextPart (close : Char) (begins : Char → Prop) (first : Bool) (text : List Char) :
    Bool → List Char → Prop
  | last {tail : List Char} (hclose : text.dropWhile isBlank = close :: tail) :
    NextPart close begins first text false (close :: tail)
  | more {mid tail : List Char} {c : Char} (hseparator : Spaced (separator first) text mid)
    (hbegin : mid.dropWhile isBlank = c :: tail) (hc : begins c) :
    NextPart close begins first text true (c :: tail)

theorem on_nextItem_eq_ok_iff {first more : Bool} : (nextItem first).on text = (.ok more, rest) ↔
    NextPart ']' (· ≠ ']') first text more rest := by
  constructor
  · intro h
    rw [nextItem, on_peek_bind] at h
    cases htext : text.dropWhile isBlank with
    | nil =>
      rw [htext] at h
      exact absurd h (not_on_malformed _ _ _)
    | cons c tail =>
      rw [htext, List.head?_cons] at h
      split at h
      case h_1 heq => cases heq
      case h_2 heq =>
        cases heq
        cases h
        exact .last htext
      case h_3 d hclose heq =>
        cases heq
        cases first with
        | true =>
          cases h
          exact .more (.nil text) htext hclose
        | false =>
          simp only [Bool.false_eq_true, if_false] at h
          by_cases hcomma : c = ','
          · subst hcomma
            have hspaced : Spaced [[',']] text tail := (Spaced.mark_iff (by decide)).mpr htext
            rw [if_pos rfl, on_advance_cons, on_peek_bind] at h
            cases hbegin : tail.dropWhile isBlank with
            | nil =>
              rw [hbegin] at h
              exact absurd h (not_on_malformed _ _ _)
            | cons d last =>
              rw [hbegin, List.head?_cons] at h
              split at h
              case h_1 => exact absurd h (not_on_malformed _ _ _)
              case h_2 e hopen heq =>
                cases heq
                cases h
                exact .more hspaced hbegin hopen
              case h_3 heq => cases heq
          · rw [if_neg hcomma] at h
            exact absurd h (not_on_malformed _ _ _)
  · intro h
    cases h with
    | last hclose =>
      rw [nextItem, on_peek_bind, hclose]
      rfl
    | more hseparator hbegin hc =>
      cases first with
      | true =>
        cases hseparator
        rw [nextItem, on_peek_bind, hbegin, List.head?_cons]
        split
        · simp_all
        · simp_all
        · rfl
      | false =>
        have htext := (Spaced.mark_iff (by decide)).mp hseparator
        rw [nextItem, on_peek_bind, htext]
        show (advance >>= _).on _ = _
        rw [on_advance_cons, on_peek_bind, hbegin, List.head?_cons]
        split
        · simp_all
        · rfl
        · simp_all

theorem on_nextMember_eq_ok_iff {first more : Bool} :
    (nextMember first).on text = (.ok more, rest) ↔
      NextPart '\x7d' (· = '"') first text more rest := by
  constructor
  · intro h
    rw [nextMember, on_peek_bind] at h
    cases htext : text.dropWhile isBlank with
    | nil =>
      rw [htext] at h
      exact absurd h (not_on_malformed _ _ _)
    | cons c tail =>
      rw [htext, List.head?_cons] at h
      split at h
      case h_1 heq => cases heq
      case h_2 heq =>
        cases heq
        cases h
        exact .last htext
      case h_3 d hclose heq =>
        cases heq
        cases first with
        | true =>
          simp only [if_true] at h
          by_cases hquote : c = '"'
          · rw [if_pos hquote] at h
            cases h
            exact .more (.nil text) htext hquote
          · rw [if_neg hquote] at h
            exact absurd h (not_on_malformed _ _ _)
        | false =>
          simp only [Bool.false_eq_true, if_false] at h
          by_cases hcomma : c = ','
          · subst hcomma
            have hspaced : Spaced [[',']] text tail := (Spaced.mark_iff (by decide)).mpr htext
            rw [if_pos rfl, on_advance_cons, on_peek_bind] at h
            cases hbegin : tail.dropWhile isBlank with
            | nil =>
              rw [hbegin] at h
              exact absurd h (not_on_malformed _ _ _)
            | cons d last =>
              rw [hbegin, List.head?_cons] at h
              split at h
              case h_1 heq =>
                cases heq
                cases h
                exact .more hspaced hbegin rfl
              case h_2 => exact absurd h (not_on_malformed _ _ _)
              case h_3 => exact absurd h (not_on_malformed _ _ _)
              case h_4 heq => cases heq
          · rw [if_neg hcomma] at h
            exact absurd h (not_on_malformed _ _ _)
  · intro h
    cases h with
    | last hclose =>
      rw [nextMember, on_peek_bind, hclose]
      rfl
    | more hseparator hbegin hc =>
      subst hc
      cases first with
      | true =>
        cases hseparator
        rw [nextMember, on_peek_bind, hbegin]
        rfl
      | false =>
        have htext := (Spaced.mark_iff (by decide)).mp hseparator
        rw [nextMember, on_peek_bind, htext]
        show (advance >>= _).on _ = _
        rw [on_advance_cons, on_peek_bind, hbegin]
        rfl

/-! ## Lists -/

/-- A reader accepts a value just where the text begins with tokens that spell the value.  The first
of them begins like a value. -/
structure Accepts (reader : Reader α) (spells : α → List (List Char) → Prop) : Prop where
  on_iff : ∀ text rest a, reader.on text = (.ok a, rest) ↔
    ∃ tokens, spells a tokens ∧ Spaced tokens text rest
  begins : ∀ a tokens, spells a tokens → ∃ c token tokens',
    tokens = (c :: token) :: tokens' ∧ isBlank c = false ∧ c ≠ ']'

/-- Values with the separator before each of them. -/
inductive Separated (spells : α → List (List Char) → Prop) :
    Bool → List α → List (List Char) → Prop
  | nil (first : Bool) : Separated spells first [] []
  | cons {first : Bool} {a : α} {values : List α} {tokens tokens' : List (List Char)}
    (ha : spells a tokens) (hvalues : Separated spells false values tokens') :
    Separated spells first (a :: values) (separator first ++ (tokens ++ tokens'))

/-- Values that are spelled without blanks, one text after another. -/
theorem exists_separated {spells : α → List (List Char) → Prop} (write : α → List Char)
    (hwrite : ∀ a, ∃ tokens, spells a tokens ∧ tokens.flatten = write a) (values : List α) :
    (∃ inner, Separated spells true values inner ∧ inner.flatten = separated (values.map write)) ∧
      ∃ inner, Separated spells false values inner ∧
        inner.flatten = (values.map write).flatMap (',' :: ·) := by
  induction values with
  | nil => exact ⟨⟨[], .nil true, rfl⟩, ⟨[], .nil false, rfl⟩⟩
  | cons a values ih =>
    obtain ⟨tokens, ha, htokens⟩ := hwrite a
    obtain ⟨-, inner, hvalues, hinner⟩ := ih
    refine ⟨⟨_, .cons ha hvalues, ?_⟩, ⟨_, .cons ha hvalues, ?_⟩⟩
    · simp [separator, separated, htokens, hinner]
    · simp [separator, htokens, hinner]

theorem Separated.exists_tokens {spells : α → List (List Char) → Prop} {first : Bool}
    {values : List α} {tokens : List (List Char)} (h : Separated spells first values tokens) {a : α}
    (ha : a ∈ values) : ∃ tokens, spells a tokens := by
  induction h with
  | nil => cases ha
  | @cons first b values tokens tokens' hb _ ih =>
    rcases List.mem_cons.mp ha with rfl | ha
    · exact ⟨tokens, hb⟩
    · exact ih ha

/-- The tokens of a list: its values between brackets. -/
def SpellsList (spells : α → List (List Char) → Prop) (values : List α)
    (tokens : List (List Char)) : Prop :=
  ∃ inner, Separated spells true values inner ∧ tokens = ['['] :: (inner ++ [[']']])

section

variable {item : Reader α} {spells : α → List (List Char) → Prop} {values : List α}
  {first : Bool} {fuel : Nat}

theorem Accepts.dropWhile_iff (h : Accepts item spells) {a : α} {tokens : List (List Char)}
    (ha : spells a tokens) :
    Spaced tokens (text.dropWhile isBlank) rest ↔ Spaced tokens text rest := by
  obtain ⟨c, token, tokens', rfl, hc, -⟩ := h.begins a tokens ha
  exact Spaced.dropWhile_iff hc

/-- The items that are read are spelled one after another up to the bracket. -/
theorem exists_of_items_go (h : Accepts item spells)
    (hgo : (items.go item fuel first).on text = (.ok values, rest)) :
    ∃ tokens mid, Separated spells first values tokens ∧ Spaced tokens text mid ∧
      mid.dropWhile isBlank = rest ∧ ∃ tail, rest = ']' :: tail := by
  induction fuel generalizing first text values with
  | zero => exact absurd hgo (not_on_malformed _ _ _)
  | succ fuel ih =>
    rw [items.go] at hgo
    obtain ⟨more, mid, hnext, hgo⟩ := on_bind_eq_ok_iff.mp hgo
    cases on_nextItem_eq_ok_iff.mp hnext with
    | @last tail hclose =>
      cases hgo
      exact ⟨[], text, .nil first, .nil text, hclose, tail, rfl⟩
    | @more mid tail c hseparator hbegin hc =>
      simp only [if_true] at hgo
      obtain ⟨value, between, hitem, hgo⟩ := on_bind_eq_ok_iff.mp hgo
      obtain ⟨values', last, hitems, hgo⟩ := on_bind_eq_ok_iff.mp hgo
      cases hgo
      obtain ⟨tokens, hvalue, htokens⟩ := (h.on_iff _ _ _).mp hitem
      rw [← hbegin, h.dropWhile_iff hvalue] at htokens
      obtain ⟨tokens', last, hvalues, htokens', hend⟩ := ih hitems
      exact ⟨_, last, .cons hvalue hvalues, hseparator.append (htokens.append htokens'), hend⟩

/-- Items that are spelled one after another up to the bracket are read. -/
theorem on_items_go_of_separated (h : Accepts item spells) {tokens : List (List Char)}
    (hvalues : Separated spells first values tokens) {mid tail : List Char}
    (htokens : Spaced tokens text mid) (hclose : mid.dropWhile isBlank = ']' :: tail)
    (hfuel : values.length < fuel) :
    (items.go item fuel first).on text = (.ok values, ']' :: tail) := by
  induction hvalues generalizing text fuel with
  | nil first =>
    obtain ⟨fuel, rfl⟩ := Nat.exists_eq_add_one.mpr hfuel
    cases htokens
    rw [items.go, on_bind_of_ok (on_nextItem_eq_ok_iff.mpr (.last hclose))]
    rfl
  | @cons first value values tokens tokens' hvalue hvalues ih =>
    obtain ⟨fuel, rfl⟩ := Nat.exists_eq_add_one.mpr (Nat.zero_lt_of_lt hfuel)
    obtain ⟨between, hseparator, htokens⟩ := Spaced.append_iff.mp htokens
    obtain ⟨after, htokens, htokens'⟩ := Spaced.append_iff.mp htokens
    have hitem : item.on (between.dropWhile isBlank) = (.ok value, after) :=
      (h.on_iff _ _ _).mpr ⟨tokens, hvalue, (h.dropWhile_iff hvalue).mpr htokens⟩
    obtain ⟨c, token, others, rfl, hblank, hc⟩ := h.begins value tokens hvalue
    obtain ⟨tail', hbegin, -⟩ := (Spaced.cons_iff hblank).mp htokens
    have hnext : (nextItem first).on text = (.ok true, between.dropWhile isBlank) := by
      rw [hbegin]
      exact on_nextItem_eq_ok_iff.mpr (.more hseparator hbegin hc)
    rw [items.go, on_bind_of_ok hnext]
    simp only [if_true]
    rw [on_bind_of_ok hitem, on_bind_of_ok (ih htokens' (Nat.lt_of_succ_lt_succ hfuel))]
    rfl

/-- There are no more values than characters. -/
theorem Accepts.length_le (h : Accepts item spells) {tokens : List (List Char)}
    (hvalues : Separated spells first values tokens) :
    values.length ≤ tokens.flatten.length := by
  induction hvalues with
  | nil => exact Nat.zero_le _
  | @cons first value values tokens tokens' hvalue _ ih =>
    obtain ⟨c, token, others, rfl, -, -⟩ := h.begins value tokens hvalue
    simp only [List.flatten_append, List.flatten_cons, List.length_append, List.length_cons]
    omega

/-- A list is accepted just where its items are, with commas between them and brackets around
them. -/
theorem accepts_list (h : Accepts item spells) : Accepts (list item) (SpellsList spells) where
  on_iff text rest values := by
    rw [list, on_value_eq_ok_iff]
    constructor
    · rintro ⟨c, tail, htext, hread⟩
      by_cases hc : c = '['
      · subst hc
        rw [if_pos rfl, enclosedList, on_advance_cons, on_closing_eq_ok_iff] at hread
        obtain ⟨mid, hitems, hclose⟩ := hread
        rw [items, on_bind_of_ok (on_fuel tail)] at hitems
        obtain ⟨tokens, last, hvalues, htokens, hlast, tail', rfl⟩ := exists_of_items_go h hitems
        refine ⟨_, ⟨tokens, hvalues, rfl⟩, (Spaced.cons_iff (by decide)).mpr ⟨tail, htext, ?_⟩⟩
        refine htokens.append ((Spaced.dropWhile_iff (by decide)).mp ?_)
        rw [hlast]
        exact (takesMark_closeList _ _).mp hclose
      · rw [if_neg hc] at hread
        exact absurd hread (not_on_wrongType _ c values)
    · rintro ⟨_, ⟨tokens, hvalues, rfl⟩, hspaced⟩
      obtain ⟨tail, htext, hspaced⟩ := (Spaced.cons_iff (by decide)).mp hspaced
      obtain ⟨mid, htokens, hclose⟩ := Spaced.append_iff.mp hspaced
      have hmid : mid.dropWhile isBlank = ']' :: rest := (Spaced.mark_iff (by decide)).mp hclose
      have hfuel : values.length < tail.length + 1 := by
        have hvalues := h.length_le hvalues
        have htokens := htokens.length_le
        omega
      refine ⟨'[', tail, htext, ?_⟩
      rw [if_pos rfl, enclosedList, on_advance_cons]
      refine on_closing_of_ok ?_ (on_closeList rest)
      rw [items, on_bind_of_ok (on_fuel tail)]
      exact on_items_go_of_separated h hvalues htokens hmid hfuel
  begins values tokens := by
    rintro ⟨inner, -, rfl⟩
    exact ⟨'[', [], _, rfl, by decide, by decide⟩

end

end Reader

end ApiReference.Json
