import ApiReference.Http.Uri
import ApiReference.Proofs.Text.Reading
import ApiReference.Query

/-!
# Queries with a Question Mark

A query text may be given with the question mark that sets it off, and so a question mark that
belongs to the query itself is lost.  Every other query is read as it stands.
-/

namespace ApiReference.Query

open Text

/-! ## Question marks -/

/-- One question mark is taken away, and no second one. -/
theorem withoutMark_append (text : String) : withoutMark ("?" ++ text) = text := by
  have hmark : ("?" ++ text).toList = '?' :: text.toList := by
    rw [String.toList_append]
    rfl
  rw [withoutMark, hmark]
  exact String.ofList_toList

theorem withoutMark_of_ne {text : String} (h : text.toList.head? ≠ some '?') :
    withoutMark text = text := by
  unfold withoutMark
  split
  case h_1 rest heq => exact absurd (by rw [heq]; rfl) h
  case h_2 => rfl

theorem exists_append_of_head? {text : String} (h : text.toList.head? = some '?') :
    ∃ rest, text = "?" ++ rest := by
  obtain ⟨rest, hrest⟩ := List.head?_eq_some_iff.mp h
  refine ⟨String.ofList rest, String.toList_injective ?_⟩
  rw [hrest, String.toList_append, show (String.ofList rest).toList = rest from
    String.toList_ofList]
  rfl

/-! ## Question marks in names -/

/-- A question mark stands for itself in a name. -/
theorem decodePart_mark (bytes : List UInt8) :
    Form.decodePart (0x3f :: bytes) = "?" ++ Form.decodePart bytes := by
  have hmark : Utf8.next 0x3f (Form.unescape bytes) = (some '?', Form.unescape bytes) := rfl
  rw [Form.decodePart, Form.unescape_cons_of_ne (by decide), Form.plain_of_ne (by decide),
    Utf8.decodeLossy_cons, hmark, String.ofList_cons]
  rfl

/-- A mark in front of a pair is a part of its name. -/
theorem decodePair_mark (piece : List UInt8) :
    (Form.decodePair (0x3f :: piece)).1 = "?" ++ (Form.decodePair piece).1 := by
  have hcut : splitFirst 0x3d (0x3f :: piece) =
      (splitFirst 0x3d piece).map fun (before, after) ↦ (0x3f :: before, after) := by
    rw [splitFirst, if_neg (by decide)]
  unfold Form.decodePair
  rw [hcut]
  cases splitFirst 0x3d piece with
  | none => exact decodePart_mark piece
  | some cut => exact decodePart_mark cut.1

/-- A question mark makes a difference to what is decoded: there is one more name, or the first name
is longer. -/
theorem decode_mark_ne (text : String) : Form.decode ("?" ++ text) ≠ Form.decode text := by
  have hbytes : Utf8.encode ("?" ++ text).toList = 0x3f :: Utf8.encode text.toList := by
    rw [String.toList_append, Utf8.encode_append]
    rfl
  obtain ⟨piece, pieces, hcut⟩ :=
    List.exists_cons_of_ne_nil (splitAll_ne_nil 0x26 (Utf8.encode text.toList))
  have hmarked : splitAll 0x26 (Utf8.encode ("?" ++ text).toList) = (0x3f :: piece) :: pieces := by
    rw [hbytes, splitAll, if_neg (by decide), hcut]
  rw [Form.decode, hmarked, Form.decode, hcut, List.filter_cons_of_pos (by simp), List.map_cons]
  cases piece with
  | nil =>
    rw [List.filter_cons_of_neg (by simp)]
    exact List.cons_ne_self _ _
  | cons b piece =>
    rw [List.filter_cons_of_pos (by simp), List.map_cons]
    intro hsame
    have hname := congrArg Prod.fst (List.cons.inj hsame).1
    rw [decodePair_mark] at hname
    have hlength := congrArg String.length hname
    rw [String.length_append] at hlength
    exact absurd hlength (by simp)

/-! ## What a query is read as -/

/-- The value of a name is the one that no pair of that name stands before. -/
theorem get?_eq_some_iff {query : Query} {name value : String} :
    query.get? name = some value ↔ ∃ before after,
      query.pairs = before ++ (name, value) :: after ∧ ∀ pair ∈ before, pair.1 ≠ name := by
  rw [get?, List.lookup_eq_some_iff]
  simp [ne_comm]

/-- A query text is read as it stands exactly if no question mark begins it.  A question mark is
taken for the one that sets the query off, and what stands after it is read instead. -/
theorem ofText?_reads (text : String) :
    ((∀ pairs, Form.Reads text pairs ↔ (ofText? (some text)).pairs = pairs) ↔
      text.toList.head? ≠ some '?') ∧
    (∀ pairs, Form.Reads text pairs ↔ (ofText? (some ("?" ++ text))).pairs = pairs) ∧
    ∀ name value, (ofText? (some text)).get? name = some value ↔
      ∃ before after, (ofText? (some text)).pairs = before ++ (name, value) :: after ∧
        ∀ pair ∈ before, pair.1 ≠ name := by
  have hread (text : String) : (ofText? (some text)).pairs = Form.decode (withoutMark text) := rfl
  refine ⟨⟨fun hsame hmark ↦ ?_, fun hmark pairs ↦ ?_⟩, fun pairs ↦ ?_, fun _ _ ↦
    get?_eq_some_iff⟩
  · obtain ⟨rest, rfl⟩ := exists_append_of_head? hmark
    have hdecoded := Form.reads_iff.mp ((hsame _).mpr rfl)
    rw [hread, withoutMark_append] at hdecoded
    exact decode_mark_ne rest hdecoded
  · rw [hread, withoutMark_of_ne hmark]
    exact Form.reads_iff
  · rw [hread, withoutMark_append]
    exact Form.reads_iff

/-- A target may have a query whose first name begins with a question mark.  No value is found for
it. -/
theorem mark_is_lost :
    Http.Uri.parse "/??a=1" = .ok ⟨"/", some "?a=1"⟩ ∧ Form.Reads "?a=1" [("?a", "1")] ∧
      (ofText? (some "?a=1")).get? "?a" = none := by
  have hname : Form.ReadsPart [0x3f, 0x61] "?a" :=
    ⟨_, .plain (by decide) (by decide) (.plain (by decide) (by decide) .nil),
      .char '?' (.char 'a' .nil)⟩
  have hvalue : Form.ReadsPart [0x31] "1" :=
    ⟨_, .plain (by decide) (by decide) .nil, .char '1' .nil⟩
  refine ⟨rfl, ⟨[[0x3f, 0x61] ++ 0x3d :: [0x31]], by simp, by decide, by decide +kernel, ?_⟩, ?_⟩
  · exact .cons (.valued (by decide) hname hvalue) .nil
  · have hwritten : Form.Writes "a=1" [("a", "1")] := by
      refine ⟨[['a'] ++ '=' :: ['1']], .cons (.valued ?_ ?_) .nil, rfl⟩
      · exact .cons (.plain (by decide)) .nil
      · exact .cons (.plain (by decide)) .nil
    have hpairs : ofText? (some "?a=1") = ⟨[("a", "1")]⟩ := by
      rw [show "?a=1" = "?" ++ "a=1" by decide, ofText?, Option.elim_some, parse,
        withoutMark_append, Form.decode_of_writes hwritten]
    rw [hpairs]
    decide

end ApiReference.Query
