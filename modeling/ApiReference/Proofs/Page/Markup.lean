import ApiReference.Page
import ApiReference.Proofs.Text.Html
import ApiReference.Proofs.Text.Occurrences

/-!
# The Markup of the Page

What fills a hole of the page holds no angle bracket, and no quote where it stands in an attribute.
So the markup is that of the template, whatever the settings and the request say.
-/

namespace ApiReference.Frontend

open Text

/-! ## Holes -/

/-- The characters that are written as escapes in an inline script. -/
def scriptUnsafe : List Char :=
  ['<', '>', '&', '\u2028', '\u2029']

theorem notMem_scriptSafeChar (c : Char) : ∀ d ∈ scriptUnsafe, d ∉ scriptSafeChar c := by
  unfold scriptSafeChar
  split
  case h_6 hlt hgt hamp hline hparagraph =>
    intro d hd
    rw [List.mem_singleton]
    rintro rfl
    simp [scriptUnsafe] at hd
    tauto
  all_goals exact List.all_iff_forall_prop.mp (by decide)

/-- The literal holds no character that is unsafe in a script. -/
theorem notMem_optionsLiteral {d : Char} (hd : d ∈ scriptUnsafe) (options : ViewerOptions) :
    d ∉ (optionsLiteral options).toList := by
  rw [optionsLiteral, String.toList_ofList, scriptSafe]
  intro hmem
  obtain ⟨c, -, hc⟩ := List.mem_flatMap.mp hmem
  exact notMem_scriptSafeChar c d hd hc

/-- The angle brackets. -/
def brackets : List Char :=
  ['<', '>']

theorem brackets_subset_scriptUnsafe : brackets ⊆ scriptUnsafe := by
  simp [brackets, scriptUnsafe]

theorem brackets_subset_delimiters : brackets ⊆ Html.delimiters := by
  simp [brackets, Html.delimiters]

theorem bracket_notMem_scriptStart : ∀ d ∈ brackets, d ∉ scriptStart.toList := by
  rw [show scriptStart.toList = _ from String.toList_ofList]
  exact List.all_iff_forall_prop.mp (by decide)

set_option maxRecDepth 2000 in
theorem bracket_notMem_scriptEnd : ∀ d ∈ brackets, d ∉ scriptEnd.toList := by
  rw [show scriptEnd.toList = _ from String.toList_ofList]
  exact List.all_iff_forall_prop.mp (by decide)

/-- The script holds no angle bracket, whatever the options are. -/
theorem bracket_notMem_script {d : Char} (hd : d ∈ brackets) (options : ViewerOptions) :
    d ∉ (script options).toList := by
  have hunsafe : d ∈ scriptUnsafe := brackets_subset_scriptUnsafe hd
  simp only [script, String.toList_append, List.mem_append, not_or]
  exact ⟨⟨bracket_notMem_scriptStart d hd, notMem_optionsLiteral hunsafe options⟩,
    bracket_notMem_scriptEnd d hd⟩

/-- No hole is filled with an angle bracket. -/
theorem bracket_notMem_fill (frontend : Frontend) (options : ViewerOptions) {d : Char}
    (hd : d ∈ brackets) (hole : Hole) : d ∉ (frontend.fill options hole).toList := by
  have hdelimiter : d ∈ Html.delimiters := brackets_subset_delimiters hd
  cases hole with
  | title | assets | target => exact Html.notMem_escape hdelimiter _
  | script => exact bracket_notMem_script hd options

def attributeHoles : List Hole :=
  [.assets, .target]

/-- A hole in an attribute is filled with no double quote. -/
theorem quote_notMem_fill (frontend : Frontend) (options : ViewerOptions) {hole : Hole}
    (hhole : hole ∈ attributeHoles) : '"' ∉ (frontend.fill options hole).toList := by
  cases hole with
  | assets | target => exact Html.notMem_escape (by decide) _
  | title | script => simp [attributeHoles] at hhole

/-! ## Fixed texts -/

/-- What the template itself writes at a piece: nothing at a hole. -/
def Piece.skeleton : Piece → List Char
  | .fixed text => text.toList
  | .hole _ => []

/-- What the template itself writes, piece by piece. -/
def skeletons : List (List Char) :=
  template.map Piece.skeleton

/-- The fixed texts as lists of characters, so that they can be searched. -/
theorem skeletons_of_chars (a b c d e f g : List Char) :
    [.fixed (.ofList a), .hole .title, .fixed (.ofList b), .hole .assets, .fixed (.ofList c),
      .hole .target, .fixed (.ofList d), .hole .assets, .fixed (.ofList e), .hole .assets,
      .fixed (.ofList f), .hole .script, .fixed (.ofList g)].map Piece.skeleton =
      [a, [], b, [], c, [], d, [], e, [], f, [], g] := by
  simp only [List.map_cons, List.map_nil, Piece.skeleton, String.toList_ofList]

/-- Texts that differ in the case of ASCII letters only have the same folded form. -/
def folded (text : List Char) : List Char :=
  text.map Char.toLower

section

set_option maxRecDepth 4000

theorem count_lt_skeletons : (skeletons.map (List.count '<')).sum = 22 := by
  rw [show skeletons = _ from skeletons_of_chars ..]
  decide

theorem count_gt_skeletons : (skeletons.map (List.count '>')).sum = 22 := by
  rw [show skeletons = _ from skeletons_of_chars ..]
  decide

/-- The tags of scripts, and how often the template writes each in any case: scripts end and begin,
and begin inside the page or with an address. -/
def scriptTags : List (List Char × Nat) :=
  [("</script".toList, 3), ("<script".toList, 3), ("<script>".toList, 1),
    ("<script src=".toList, 2)]

/-- No tag of a script can begin in one piece of the template and end in the next. -/
theorem isSealed_scriptTags :
    ∀ entry ∈ scriptTags, ∀ text ∈ skeletons, IsSealed entry.1 (folded text) := by
  rw [show skeletons = _ from skeletons_of_chars ..]
  decide

theorem occurrences_scriptTags : ∀ entry ∈ scriptTags,
    (skeletons.map fun text ↦ occurrences entry.1 (folded text)).sum = entry.2 := by
  rw [show skeletons = _ from skeletons_of_chars ..]
  decide

end

/-! ## The page -/

/-- A page is its template with the holes filled. -/
theorem toList_page (frontend : Frontend) (options : ViewerOptions) :
    (frontend.page options).toList =
      (template.map fun piece ↦ (piece.fill frontend options).toList).flatten := by
  rw [page, String.toList_join, List.flatMap_map, List.flatMap_def]

/-- The page has just the angle brackets of its template. -/
theorem count_page (frontend : Frontend) (options : ViewerOptions) {d : Char} (hd : d ∈ brackets) :
    (frontend.page options).toList.count d = (skeletons.map (List.count d)).sum := by
  have hfill (piece : Piece) :
      (piece.fill frontend options).toList.count d = piece.skeleton.count d := by
    cases piece with
    | fixed text => rfl
    | hole place => exact List.count_eq_zero.mpr (bracket_notMem_fill frontend options hd place)
  calc
    _ = (template.map fun piece ↦ (piece.fill frontend options).toList.count d).sum := by
      rw [toList_page, List.count_flatten, List.map_map]
      rfl
    _ = (template.map fun piece ↦ piece.skeleton.count d).sum := by simp only [hfill]
    _ = _ := by
      rw [skeletons, List.map_map]
      rfl

theorem toLower_eq_lt_iff (c : Char) : c.toLower = '<' ↔ c = '<' := by
  simp only [Char.toLower, Char.ext_iff]
  split <;> grind [UInt32.toNat_add]

theorem lt_notMem_folded {text : List Char} (h : '<' ∉ text) : '<' ∉ folded text := by
  intro hmem
  obtain ⟨c, hc, heq⟩ := List.mem_map.mp hmem
  exact h ((toLower_eq_lt_iff c).mp heq ▸ hc)

/-- A tag occurs in the page as often as in the template, unless a hole could cut it. -/
theorem occurrences_page (frontend : Frontend) (options : ViewerOptions) {tag : List Char}
    (htag : tag.head? = some '<') (hsealed : ∀ text ∈ skeletons, IsSealed tag (folded text)) :
    occurrences tag (folded (frontend.page options).toList) =
      (skeletons.map fun text ↦ occurrences tag (folded text)).sum := by
  obtain ⟨name, rfl⟩ := List.head?_eq_some_iff.mp htag
  have hfold : folded (frontend.page options).toList =
      (template.map fun piece ↦ folded (piece.fill frontend options).toList).flatten := by
    rw [toList_page, folded, List.map_flatten, List.map_map]
    rfl
  have hhole (place : Hole) : '<' ∉ folded (frontend.fill options place).toList :=
    lt_notMem_folded (bracket_notMem_fill frontend options (by decide) place)
  have hoccurrences (piece : Piece) :
      occurrences ('<' :: name) (folded (piece.fill frontend options).toList) =
        occurrences ('<' :: name) (folded piece.skeleton) := by
    cases piece with
    | fixed text => rfl
    | hole place => exact occurrences_of_notMem (hhole place)
  have hpieces : ∀ text ∈ template.map fun piece ↦ folded (piece.fill frontend options).toList,
      IsSealed ('<' :: name) text := by
    intro text htext
    obtain ⟨piece, hpiece, rfl⟩ := List.mem_map.mp htext
    cases piece with
    | fixed text => exact hsealed _ (List.mem_map_of_mem hpiece)
    | hole place => exact IsSealed.of_notMem (hhole place)
  calc
    _ = (template.map fun piece ↦
        occurrences ('<' :: name) (folded (piece.fill frontend options).toList)).sum := by
      rw [hfold, occurrences_flatten (List.cons_ne_nil '<' name) hpieces, List.map_map]
      rfl
    _ = (template.map fun piece ↦ occurrences ('<' :: name) (folded piece.skeleton)).sum := by
      simp only [hoccurrences]
    _ = _ := by
      rw [skeletons, List.map_map]
      rfl

/-- The page has just the script tags of its template. -/
theorem occurrences_page_of_mem (frontend : Frontend) (options : ViewerOptions) {tag : List Char}
    {n : Nat} (h : (tag, n) ∈ scriptTags) :
    occurrences tag (folded (frontend.page options).toList) = n := by
  have htags : ∀ entry ∈ scriptTags, entry.1.head? = some '<' := by decide
  rw [occurrences_page frontend options (htags _ h) (isSealed_scriptTags _ h),
    occurrences_scriptTags _ h]

/-- Every page is the template with its holes filled, and what fills them changes nothing about the
markup: the angle brackets and the ends of scripts are those of the template, and the title and the
attributes stand for the texts that they were made of. -/
theorem page_markup (frontend : Frontend) (options : ViewerOptions) :
    frontend.page options = String.join (template.map (Piece.fill frontend options)) ∧
    (∀ hole, '<' ∉ (frontend.fill options hole).toList ∧
      '>' ∉ (frontend.fill options hole).toList) ∧
    (∀ hole ∈ attributeHoles, '"' ∉ (frontend.fill options hole).toList) ∧
    (frontend.page options).toList.count '<' = 22 ∧
    (frontend.page options).toList.count '>' = 22 ∧
    occurrences "</script".toList (folded (frontend.page options).toList) = 3 ∧
    Html.decode (frontend.fill options .title) = frontend.title ∧
    Html.decode (frontend.fill options .assets) = frontend.assetsUrl ∧
    Html.decode (frontend.fill options .target) = options.target := by
  refine ⟨rfl, fun hole ↦ ⟨?_, ?_⟩, fun hole hhole ↦ ?_, ?_, ?_, ?_, ?_, ?_, ?_⟩
  · exact bracket_notMem_fill frontend options (by decide) hole
  · exact bracket_notMem_fill frontend options (by decide) hole
  · exact quote_notMem_fill frontend options hhole
  · rw [count_page frontend options (by decide), count_lt_skeletons]
  · rw [count_page frontend options (by decide), count_gt_skeletons]
  · exact occurrences_page_of_mem frontend options (by simp [scriptTags])
  · exact Html.decode_escape frontend.title
  · exact Html.decode_escape frontend.assetsUrl
  · exact Html.decode_escape options.target

end ApiReference.Frontend
