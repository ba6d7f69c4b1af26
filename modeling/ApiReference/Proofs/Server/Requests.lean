import ApiReference.Proofs.Query
import ApiReference.Proofs.Server.Views

/-!
# The Address Asked For

A request can name the document that is shown first.  However its query is written, the viewer is
given the address unchanged, or the default address if an empty one was asked for.
-/

namespace ApiReference

open Text

namespace Query

/-- A query begins with no question mark of its own. -/
theorem withoutMark_of_writes {text : String} {pairs : List (String × String)}
    (h : Form.Writes text pairs) : withoutMark text = text := by
  refine withoutMark_of_ne fun hmark ↦ ?_
  exact absurd (h.isWritten '?' (List.mem_of_mem_head? hmark)) (by decide)

theorem parse_of_writes {text : String} {pairs : List (String × String)}
    (h : Form.Writes text pairs) : parse text = ⟨pairs⟩ := by
  rw [parse, withoutMark_of_writes h, Form.decode_of_writes h]

/-- The first value of a name is found, whatever follows it. -/
theorem get?_append {before : List (String × String)} {name : String}
    (h : ∀ pair ∈ before, pair.1 ≠ name) (value : String) (after : List (String × String)) :
    get? ⟨before ++ (name, value) :: after⟩ name = some value :=
  get?_eq_some_iff.mpr ⟨before, after, rfl, h⟩

end Query

namespace Http.Uri

/-- Written characters and separators may stand in a query, which none of them ends. -/
theorem isQueryChar_of_isWritten {c : Char} (h : Form.isWritten c = true ∨ c = '=' ∨ c = '&') :
    isQueryChar c = true ∧ c ≠ '#' := by
  have hascii : ∀ n < 128, Form.isWritten (Char.ofNat n) = true →
      isQueryChar (Char.ofNat n) = true ∧ Char.ofNat n ≠ '#' := by
    decide +kernel
  rcases h with h | rfl | rfl
  · exact Utf8.forall_ascii (p := fun c ↦ Form.isWritten c = true → isQueryChar c = true ∧ c ≠ '#')
      hascii (Form.toNat_lt_of_isWritten h) h
  all_goals decide

theorem ne_of_isPathChar {c : Char} (h : isPathChar c = true) : c ≠ '?' ∧ c ≠ '#' :=
  ⟨fun heq ↦ absurd (heq ▸ h) (by decide), fun heq ↦ absurd (heq ▸ h) (by decide)⟩

theorem pathAndQuery_append {path query : List Char} (hne : path ≠ [])
    (hpath : ∀ c ∈ path, isPathChar c = true)
    (hquery : ∀ c ∈ query, isQueryChar c = true ∧ c ≠ '#') :
    pathAndQuery (path ++ '?' :: query) =
      .ok ⟨String.ofList path, some (String.ofList query)⟩ := by
  have hgoes : ∀ c ∈ path, (c != '?' && c != '#') = true := fun c hc ↦ by
    simpa using ne_of_isPathChar (hpath c hc)
  have htake : (path ++ '?' :: query).takeWhile (fun c ↦ c != '?' && c != '#') = path := by
    rw [List.takeWhile_append_of_pos hgoes]
    simp
  have hdrop : (path ++ '?' :: query).dropWhile (fun c ↦ c != '?' && c != '#') =
      '?' :: query := by
    rw [List.dropWhile_append_of_pos hgoes]
    rfl
  have hrest : query.takeWhile (· != '#') = query :=
    List.takeWhile_eq_self_iff.mpr fun c hc ↦ by simpa using (hquery c hc).2
  have hall : query.all isQueryChar = true := List.all_eq_true.mpr fun c hc ↦ (hquery c hc).1
  unfold pathAndQuery
  simp only [htake, hdrop, hrest, hall, List.all_eq_true.mpr hpath]
  simp [hne]

/-- A path with a written query after it is a target with that path and that query. -/
theorem parse_of_writes {path text : String} {pairs : List (String × String)}
    (hslash : path.toList.head? = some '/') (hpath : ∀ c ∈ path.toList, isPathChar c = true)
    (h : Form.Writes text pairs) (hlength : (path ++ "?" ++ text).utf8ByteSize ≤ maxLength) :
    parse (path ++ "?" ++ text) = .ok ⟨path, some text⟩ := by
  obtain ⟨rest, hrest⟩ := List.head?_eq_some_iff.mp hslash
  have hcs : (path ++ "?" ++ text).toList = path.toList ++ '?' :: text.toList := by
    simp
  have hread := pathAndQuery_append (by simp [hrest]) hpath fun c hc ↦
    isQueryChar_of_isWritten (h.isWritten c hc)
  rw [String.ofList_toList, String.ofList_toList] at hread
  have hfits : ¬maxLength < Utf8.length (path ++ "?" ++ text).toList := by
    rw [Utf8.length_toList]
    exact Nat.not_lt.mpr hlength
  unfold parse
  rw [if_neg hfits, hcs, hrest]
  rw [hrest] at hread
  exact hread

end Http.Uri

namespace Server.Site

variable (site : Site) (uptimeSeconds : Nat)

/-- An address that a request asks for reaches the viewer unchanged, in whichever way it is written
and whatever other parameters are, as long as no other address is asked for before. -/
theorem override_reaches_viewer {before after : List (String × String)} {address text : String}
    (hbefore : ∀ pair ∈ before, pair.1 ≠ "url")
    (htext : Form.Writes text (before ++ ("url", address) :: after)) :
    (site.respond uptimeSeconds .get ⟨"/swagger-config.json", some text⟩).status = 200 ∧
    (∃ answer, Json.Value.read (site.view uptimeSeconds (some text) "/swagger-config.json") =
        .ok answer ∧
      answer.get? "url" =
        some (.text (if address = "" then site.selector.defaultUrl else address))) ∧
    (("/swagger-config.json" ++ "?" ++ text).utf8ByteSize ≤ Http.Uri.maxLength →
      Http.Uri.parse ("/swagger-config.json" ++ "?" ++ text) =
        .ok ⟨"/swagger-config.json", some text⟩) := by
  have hurl : selectUrl (Query.parse text) site.selector.defaultUrl =
      if address = "" then site.selector.defaultUrl else address := by
    rw [selectUrl, Query.parse_of_writes htext, Query.get?_append hbefore]
    simp
  refine ⟨rfl, ⟨(site.viewed (some text)).toJson, ?_, ?_⟩, fun hlength ↦ ?_⟩
  · rw [view_options]
    exact (site.viewed (some text)).read_toText
  · have hquery : Query.ofText? (some text) = Query.parse text := rfl
    have hviewed : (site.viewed (some text)).url =
        if address = "" then site.selector.defaultUrl else address := by
      simp only [viewed, Selector.options, hquery, hurl]
    exact congrArg (fun url ↦ some (Json.Value.text url)) hviewed
  · have hpath : ∀ c ∈ "/swagger-config.json".toList, Http.Uri.isPathChar c = true :=
      List.all_eq_true.mp (by decide)
    exact Http.Uri.parse_of_writes (by decide) hpath htext hlength

/-- Another parameter before it, digits in both cases and a quote leave an address as it is. -/
theorem quoted_override_reaches_viewer :
    (∀ pair ∈ [("a b", "")], pair.1 ≠ "url") ∧
    Form.Writes "a+b=&url=%C3%a9%22" ([("a b", "")] ++ ("url", "é\"") :: []) ∧
    ∃ answer, Json.Value.read
        ((of .platform {}).view 0 (some "a+b=&url=%C3%a9%22") "/swagger-config.json") = .ok answer ∧
      answer.get? "url" = some (.text "é\"") := by
  have hbefore : ∀ pair ∈ [("a b", "")], pair.1 ≠ "url" := by
    decide
  have hname : Form.WritesPart ['a', '+', 'b'] "a b" :=
    .cons (.plain (by decide)) (.cons .space (.cons (.plain (by decide)) .nil))
  have hurl : Form.WritesPart ['u', 'r', 'l'] "url" :=
    .cons (.plain (by decide)) (.cons (.plain (by decide)) (.cons (.plain (by decide)) .nil))
  have haddress : Form.WritesPart ['%', 'C', '3', '%', 'a', '9', '%', '2', '2'] "é\"" :=
    .cons (@Form.WritesByte.escaped 'C' '3' 12 3 rfl rfl)
      (.cons (@Form.WritesByte.escaped 'a' '9' 10 9 rfl rfl)
        (.cons (@Form.WritesByte.escaped '2' '2' 2 2 rfl rfl) .nil))
  have htext : Form.Writes "a+b=&url=%C3%a9%22" ([("a b", "")] ++ ("url", "é\"") :: []) := by
    refine ⟨_, .cons (@Form.WritesPair.valued _ [] ("a b", "") hname .nil)
      (.cons (@Form.WritesPair.valued _ _ ("url", "é\"") hurl haddress) .nil), ?_⟩
    decide +kernel
  refine ⟨hbefore, htext, ?_⟩
  exact (override_reaches_viewer (of .platform {}) 0 hbefore htext).2.1

end Server.Site

end ApiReference
