import ApiReference.Proofs.Json.Reader

/-!
# Reading Printed JSON Back

Printed values are read back, whatever builder reads them.  This stays so when the printed text is
rewritten character by character, as long as the characters that the grammar is made of are kept and
the others are spelled in another way.
-/

namespace ApiReference.Json

open Decode

/-! ## Builders -/

namespace Builder

open Reader

variable {α : Type} (builder : Builder α)

theorem on_tree_scalar {c : Char} {reader : Reader Scalar} {scalar : Scalar} {a : α}
    {rest rest' : List Char} (hc : isBlank c = false) (hreader : scalar? c = some reader)
    (hscalar : reader.on (c :: rest) = (.ok scalar, rest')) (ha : builder.scalar scalar = .ok a)
    (depth : Nat) : (builder.tree depth).on (c :: rest) = (.ok a, rest') := by
  cases depth with
  | zero | succ _ =>
    refine on_value_of_ok hc ?_
    simp only [hreader]
    rw [on_bind_of_ok hscalar, on_accept ha]

variable {builder}

theorem reads_word {c : Char} {cs : List Char} {scalar : Scalar} {a : α}
    (hblank : isBlank c = false) (hend : c ≠ ']')
    (hreader : scalar? c = some do advance; word cs; return scalar)
    (ha : builder.scalar scalar = .ok a) (depth : Nat) :
    Reads (builder.tree depth) (c :: cs) a := by
  refine ⟨⟨c, cs, rfl, hblank, hend⟩, fun rest _ ↦ ?_⟩
  rw [List.cons_append]
  refine builder.on_tree_scalar hblank hreader ?_ ha depth
  rw [on_bind_of_ok (on_advance c _), on_bind_of_ok (on_word cs rest), on_pure]

theorem reads_text {text : List Char} {content : String} {a : α}
    (h : SpellsString text content.toList) (ha : builder.scalar (.text content) = .ok a)
    (depth : Nat) : Reads (builder.tree depth) ('"' :: (text ++ ['"'])) a := by
  refine ⟨⟨'"', _, rfl, by decide, by decide⟩, fun rest _ ↦ ?_⟩
  simp only [List.cons_append, List.append_assoc, List.nil_append]
  refine builder.on_tree_scalar (by decide) rfl ?_ ha depth
  rw [on_bind_of_ok (on_advance '"' _), on_bind_of_ok (on_stringRest h rest), on_pure]

theorem reads_array {depth : Nat} {texts : List (List Char)} {values : List α}
    (h : List.Forall₂ (Reads (builder.tree depth)) texts values) :
    Reads (builder.tree (depth + 1)) ('[' :: (separated texts ++ [']'])) (builder.list values) := by
  refine ⟨⟨'[', _, rfl, by decide, by decide⟩, fun rest _ ↦ ?_⟩
  simp only [List.cons_append, List.append_assoc, List.nil_append]
  refine on_value_of_ok (by decide) ?_
  show (enclosedList (builder.list <$> items (builder.tree depth))).on _ = _
  rw [enclosedList, on_bind_of_ok (on_advance '[' _)]
  exact on_closing_of_ok (on_map_of_ok builder.list (on_items h rest)) (on_closeList rest)

theorem on_member {tree : Reader α} {members : List (String × α)} {name : String}
    {text rest : List Char} {a : α} (hpermit : builder.permit members name = .ok ())
    (h : Reads tree text a) (hrest : Ends rest) :
    (builder.member tree members name).on (':' :: text ++ rest) =
      (.ok (putMember name a members), rest) := by
  rw [member, on_bind_of_ok (on_accept hpermit _), List.cons_append,
    on_bind_of_ok (on_colon _), on_bind_of_ok (h.result rest hrest), on_pure]

theorem on_objectBody {tree : Reader α} {members : List (String × List Char)}
    {entries : List (String × α)} (h : Folds (builder.member tree) members [] entries)
    (hspecial : ∀ member ∈ members.head?, builder.special member.1 = none) (rest : List Char) :
    (builder.objectBody tree).on (separated (members.map Prod.snd) ++ '\x7d' :: rest) =
      (.ok (builder.table entries), '\x7d' :: rest) := by
  have hfold := on_foldMembers h rest
  rw [objectBody, on_bind_of_ok (on_remaining _)]
  cases h with
  | nil =>
    rw [List.map_nil, separated, List.nil_append, on_bind_of_ok (on_nextMember_end true rest)]
    rfl
  | @cons name nameText text members _ state _ hname _ _ =>
    have hnone : builder.special name = none := hspecial _ rfl
    simp only [List.map_cons, separated, List.cons_append, List.append_assoc] at hfold ⊢
    rw [on_bind_of_ok (on_nextMember_first _)]
    simp only [if_true]
    rw [on_bind_of_ok (on_key hname _)]
    simp only [hnone]
    rw [on_bind_of_ok (on_resume _ _), on_bind_of_ok hfold, on_pure]

theorem reads_object {depth : Nat} {members : List (String × List Char)}
    {entries : List (String × α)}
    (h : Folds (builder.member (builder.tree depth)) members [] entries)
    (hspecial : ∀ member ∈ members.head?, builder.special member.1 = none) :
    Reads (builder.tree (depth + 1))
      ('\x7b' :: (separated (members.map Prod.snd) ++ ['\x7d'])) (builder.table entries) := by
  refine ⟨⟨'\x7b', _, rfl, by decide, by decide⟩, fun rest _ ↦ ?_⟩
  simp only [List.cons_append, List.append_assoc, List.nil_append]
  refine on_value_of_ok (by decide) ?_
  show (enclosedObject (builder.objectBody (builder.tree depth))).on _ = _
  exact on_enclosedObject (on_objectBody h hspecial rest)

end Builder

/-! ## Rewriting -/

/-- The characters that JSON text without numbers is made of outside of strings. -/
def marks : List Char :=
  ['\x7b', '\x7d', '[', ']', ',', ':', '"', 'n', 'u', 'l', 't', 'r', 'e', 'f', 'a', 's']

theorem flatMap_eq_self {write : Char → List Char} {text : List Char}
    (h : ∀ c ∈ text, write c = [c]) : text.flatMap write = text := by
  induction text with
  | nil => rfl
  | cons c text ih =>
    rw [List.flatMap_cons, h c (List.mem_cons_self ..),
      ih fun d hd ↦ h d (List.mem_cons_of_mem c hd), List.singleton_append]

/-- Ways to write the characters of a JSON text once more, so that it spells the same. -/
structure IsRewriting (write : Char → List Char) : Prop where
  keeps : ∀ c ∈ marks, write c = [c]
  spells : ∀ c, SpellsChar ((escapeChar c).flatMap write) c

theorem isRewriting_singleton : IsRewriting fun c ↦ [c] where
  keeps _ _ := rfl
  spells c := by
    rw [List.flatMap_singleton']
    exact spellsChar_escapeChar c

namespace IsRewriting

variable {write : Char → List Char} (h : IsRewriting write)

include h

/-- Texts of kept characters are kept. -/
theorem flatMap_marks {text : List Char} (htext : ∀ c ∈ text, c ∈ marks) :
    text.flatMap write = text :=
  flatMap_eq_self fun c hc ↦ h.keeps c (htext c hc)

/-- Each character of a printed text is spelled, however it is rewritten. -/
theorem spellsString (cs : List Char) :
    SpellsString ((cs.flatMap escapeChar).flatMap write) cs := by
  rw [List.flatMap_assoc]
  exact spellsString_flatMap h.spells cs

theorem flatMap_separated (texts : List (List Char)) :
    (Reader.separated texts).flatMap write =
      Reader.separated (texts.map (List.flatMap write)) := by
  cases texts with
  | nil => rfl
  | cons text texts =>
    simp only [Reader.separated, List.flatMap_append, List.map_cons, List.flatMap_assoc,
      List.flatMap_map, List.flatMap_cons, h.keeps ',' (by decide), List.singleton_append]

end IsRewriting

/-! ## Values -/

/-- Values without numbers and repeated names, with at most so many containers in one another. -/
inductive Value.Spellable : Nat → Value → Prop
  | null (depth : Nat) : Spellable depth .null
  | flag (depth : Nat) (value : Bool) : Spellable depth (.flag value)
  | text (depth : Nat) (value : String) : Spellable depth (.text value)
  | array {depth : Nat} {items : List Value} (hitems : ∀ item ∈ items, Spellable depth item) :
      Spellable (depth + 1) (.array items)
  | object {depth : Nat} {members : List (String × Value)} (hnames : (members.map Prod.fst).Nodup)
      (hmembers : ∀ member ∈ members, Spellable depth member.2) :
      Spellable (depth + 1) (.object members)

/-- A value may have more room than it needs. -/
theorem Value.Spellable.mono {depth depth' : Nat} {value : Value} (h : value.Spellable depth)
    (hle : depth ≤ depth') : value.Spellable depth' := by
  induction h generalizing depth' with
  | null => exact .null depth'
  | flag => exact .flag depth' _
  | text => exact .text depth' _
  | array _ ih =>
    obtain ⟨depth', rfl⟩ := Nat.exists_eq_add_one.mpr (Nat.zero_lt_of_lt hle)
    exact .array fun item hitem ↦ ih item hitem (Nat.le_of_succ_le_succ hle)
  | object hnames _ ih =>
    obtain ⟨depth', rfl⟩ := Nat.exists_eq_add_one.mpr (Nat.zero_lt_of_lt hle)
    exact .object hnames fun member hmember ↦ ih member hmember (Nat.le_of_succ_le_succ hle)

theorem printItems_eq_separated (items : List Value) :
    printItems items = Reader.separated (items.map Value.print) := by
  cases items with
  | nil => rfl
  | cons item items =>
    induction items generalizing item with
    | nil => simp [printItems, Reader.separated]
    | cons next items ih =>
      rw [printItems, ih next]
      simp [Reader.separated]

/-- A member as it is printed. -/
def printMember (member : String × Value) : List Char :=
  stringText member.1.toList ++ ':' :: member.2.print

theorem printMembers_eq_separated (members : List (String × Value)) :
    printMembers members = Reader.separated (members.map printMember) := by
  cases members with
  | nil => rfl
  | cons member members =>
    induction members generalizing member with
    | nil => simp [printMembers, printMember, Reader.separated]
    | cons next members ih =>
      obtain ⟨name, value⟩ := member
      rw [printMembers, ih next]
      simp [printMember, Reader.separated]

theorem putMember_of_notMem {α : Type} {name : String} {members : List (String × α)}
    (h : name ∉ members.map Prod.fst) (value : α) :
    putMember name value members = members ++ [(name, value)] := by
  induction members with
  | nil => rfl
  | cons member members ih =>
    simp only [List.map_cons, List.mem_cons, not_or] at h
    rw [putMember, if_neg (Ne.symm h.1), ih h.2, List.cons_append]

namespace Value

open Reader

variable {write : Char → List Char}

/-- A printed string with its quotes, rewritten. -/
theorem flatMap_stringText (hwrite : IsRewriting write) (cs : List Char) :
    (stringText cs).flatMap write = '"' :: ((cs.flatMap escapeChar).flatMap write ++ ['"']) := by
  simp only [stringText, List.cons_append, List.flatMap_cons, List.flatMap_append,
    List.flatMap_nil, hwrite.keeps '"' (by decide), List.append_nil,
    List.nil_append]

theorem flatMap_printMember (hwrite : IsRewriting write) (member : String × Value) :
    (printMember member).flatMap write =
      '"' :: ((member.1.toList.flatMap escapeChar).flatMap write ++
        '"' :: ':' :: member.2.print.flatMap write) := by
  simp only [printMember, List.flatMap_append, flatMap_stringText hwrite, List.flatMap_cons,
    hwrite.keeps ':' (by decide), List.cons_append, List.append_assoc, List.nil_append]

/-- The members of a printed object are taken in one after another onto those before. -/
theorem folds_members (hwrite : IsRewriting write) {depth : Nat} (before : List (String × Value))
    {members : List (String × Value)} (hnames : ((before ++ members).map Prod.fst).Nodup)
    (hmembers : ∀ member ∈ members,
      Reads (Value.builder.tree depth) (member.2.print.flatMap write) member.2) :
    Folds (Value.builder.member (Value.builder.tree depth))
      (members.map fun member ↦ (member.1, (printMember member).flatMap write)) before
      (before ++ members) := by
  induction members generalizing before with
  | nil =>
    rw [List.append_nil]
    exact Folds.nil before
  | cons member members ih =>
    have hnew : member.1 ∉ before.map Prod.fst := by
      rw [List.map_append, List.nodup_append] at hnames
      intro hmem
      exact hnames.2.2 _ hmem _ (by simp) rfl
    have hput : putMember member.1 member.2 before = before ++ [member] :=
      putMember_of_notMem hnew member.2
    have hrest := ih (before ++ [member]) (by simpa using hnames)
      fun other hother ↦ hmembers other (List.mem_cons_of_mem member hother)
    rw [List.append_assoc, List.singleton_append, ← hput] at hrest
    rw [List.map_cons, flatMap_printMember hwrite]
    refine Folds.cons (hwrite.spellsString _) (fun rest hends ↦ ?_) hrest
    exact Builder.on_member rfl (hmembers member (List.mem_cons_self ..)) hends

/-- A printed value is read back, however its text is rewritten. -/
theorem reads_print (hwrite : IsRewriting write) {depth : Nat} {value : Value}
    (h : value.Spellable depth) :
    Reads (Value.builder.tree depth) (value.print.flatMap write) value := by
  induction h with
  | null depth =>
    rw [print, hwrite.flatMap_marks (List.all_iff_forall_prop.mp (by decide))]
    exact Builder.reads_word (by decide) (by decide) rfl rfl depth
  | flag depth value =>
    cases value with
    | true | false =>
      rw [print, hwrite.flatMap_marks (List.all_iff_forall_prop.mp (by decide))]
      exact Builder.reads_word (by decide) (by decide) rfl rfl depth
  | text depth content =>
    rw [print, flatMap_stringText hwrite]
    exact Builder.reads_text (hwrite.spellsString _) rfl depth
  | @array depth items _ ih =>
    have hitems : List.Forall₂ (Reads (Value.builder.tree depth))
        ((items.map Value.print).map (List.flatMap write)) items := by
      rw [List.map_map, List.forall₂_map_left_iff, List.forall₂_same]
      exact ih
    rw [print, printItems_eq_separated]
    simp only [List.cons_append, List.flatMap_cons, List.flatMap_append, List.flatMap_nil,
      hwrite.keeps '[' (by decide), hwrite.keeps ']' (by decide), hwrite.flatMap_separated,
      List.append_nil, List.nil_append]
    exact Builder.reads_array hitems
  | @object depth members hnames _ ih =>
    have hfolds := folds_members hwrite [] (by simpa using hnames) ih
    have htexts : ((members.map printMember).map (List.flatMap write)) =
        (members.map fun member ↦ (member.1, (printMember member).flatMap write)).map Prod.snd := by
      rw [List.map_map, List.map_map]
      rfl
    rw [print, printMembers_eq_separated]
    simp only [List.cons_append, List.flatMap_cons, List.flatMap_append, List.flatMap_nil,
      hwrite.keeps '\x7b' (by decide), hwrite.keeps '\x7d' (by decide), hwrite.flatMap_separated,
      List.append_nil, List.nil_append, htexts]
    exact Builder.reads_object hfolds fun _ _ ↦ rfl

/-- A printed value is read back, even if its characters are rewritten inside texts. -/
theorem read_print_rewritten (hwrite : IsRewriting write) {value : Value}
    (h : value.Spellable Builder.maxDepth) :
    Value.read (String.ofList (value.print.flatMap write)) = .ok value := by
  rw [Value.read, Builder.read, String.toList_ofList]
  exact readAll_of_reads (reads_print hwrite h)

/-- A printed value is read back. -/
theorem read_toText {value : Value} (h : value.Spellable Builder.maxDepth) :
    Value.read value.toText = .ok value := by
  have hread := read_print_rewritten isRewriting_singleton h
  rwa [List.flatMap_singleton'] at hread

end Value

end ApiReference.Json
