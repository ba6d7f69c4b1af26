import ApiReference.Proofs.Json.Numbers
import ApiReference.Proofs.Json.Refusal
import ApiReference.Proofs.Json.RoundTrip

/-!
# What Builders Make of Printed Values

A builder meets the parts of a printed value in the order in which they are written.  So what it
makes of the text is put together from what it makes of the parts, and if it refuses any of them,
the text is refused for the first.
-/

namespace ApiReference.Json

open Decode

/-! ## Results -/

namespace Reader

variable {α : Type} {reader : Reader α} {text : List Char}

/-- A reader makes of a text what a result says: it reads a value or finds a mismatch. -/
def Yields (reader : Reader α) (text : List Char) : Except Mismatch α → Prop
  | .ok a => Reads reader text a
  | .error what => Refuses reader text what

theorem Yields.readAll_eq {result : Except Mismatch α} (h : Yields reader text result) :
    (∀ a, result = .ok a → readAll reader text = .ok a) ∧
    ∀ what, result = .error what →
      ∃ place, readAll reader text = .error ⟨.mismatch what, place⟩ := by
  constructor
  · rintro a rfl
    exact readAll_of_reads h
  · rintro what rfl
    have hstops := h.stops [] ends_nil
    rw [List.append_nil] at hstops
    exact hstops.readAll

end Reader

/-! ## What is made -/

namespace Builder

open Reader

variable {α : Type} {builder : Builder α}

mutual

/-- What a builder makes of a value. -/
def make (builder : Builder α) : Value → Except Mismatch α
  | .null => builder.scalar .null
  | .flag value => builder.scalar (.flag value)
  | .number value => builder.scalar (.number value)
  | .text value => builder.scalar (.text value)
  | .array items => do return builder.list (← builder.makeItems items)
  | .object members => do return builder.table (← builder.makeMembers [] members)

/-- What a builder makes of the items of a list. -/
def makeItems (builder : Builder α) : List Value → Except Mismatch (List α)
  | [] => .ok []
  | item :: items => do
    let first ← builder.make item
    let values ← builder.makeItems items
    return first :: values

/-- What a builder makes of the members of an object, after some members before them. -/
def makeMembers (builder : Builder α) (before : List (String × α)) :
    List (String × Value) → Except Mismatch (List (String × α))
  | [] => .ok before
  | (name, value) :: members => do
    builder.permit before name
    let made ← builder.make value
    builder.makeMembers (putMember name made before) members

end

/-- Values that a builder is asked for part by part: the numbers are natural and fit 64 bits, no
object begins with a special key, and at most so many containers lie in one another. -/
inductive Suits (builder : Builder α) : Nat → Value → Prop
  | null (depth : Nat) : Suits builder depth .null
  | flag (depth : Nat) (value : Bool) : Suits builder depth (.flag value)
  | count (depth : Nat) {n : Nat} (hn : n < Decimal.Word.limit) :
      Suits builder depth (Value.ofNat n)
  | text (depth : Nat) (value : String) : Suits builder depth (.text value)
  | array {depth : Nat} {items : List Value} (hitems : ∀ item ∈ items, Suits builder depth item) :
      Suits builder (depth + 1) (.array items)
  | object {depth : Nat} {members : List (String × Value)}
      (hspecial : ∀ member ∈ members.head?, builder.special member.1 = none)
      (hmembers : ∀ member ∈ members, Suits builder depth member.2) :
      Suits builder (depth + 1) (.object members)

/-! ### Scalars -/

theorem yields_scalar {c : Char} {tail : List Char} {reader : Reader Scalar} {scalar : Scalar}
    (hblank : isBlank c = false) (hend : c ≠ ']') (hreader : scalar? c = some reader)
    (hscalar : ∀ rest, Ends rest → reader.on (c :: (tail ++ rest)) = (.ok scalar, rest))
    (depth : Nat) : Yields (builder.tree depth) (c :: tail) (builder.scalar scalar) := by
  cases hresult : builder.scalar scalar with
  | ok a =>
    refine ⟨⟨c, tail, rfl, hblank, hend⟩, fun rest hrest ↦ ?_⟩
    exact builder.on_tree_scalar hblank hreader (hscalar rest hrest) hresult depth
  | error what =>
    refine ⟨⟨c, tail, rfl, hblank, hend⟩, fun rest hrest ↦ ?_⟩
    rw [List.cons_append]
    have hstops : Stops (reader >>= fun scalar ↦ accept (builder.scalar scalar))
        (c :: (tail ++ rest)) what := by
      apply Stops.after (hscalar rest hrest)
      rw [hresult]
      exact stops_accept what rest
    cases depth with
    | zero | succ _ =>
      apply Stops.value hblank
      simpa only [hreader] using hstops

theorem yields_word {c : Char} {cs : List Char} {scalar : Scalar} (hblank : isBlank c = false)
    (hend : c ≠ ']') (hreader : scalar? c = some do advance; word cs; return scalar)
    (depth : Nat) : Yields (builder.tree depth) (c :: cs) (builder.scalar scalar) := by
  apply yields_scalar hblank hend hreader
  intro rest _
  rw [on_bind_of_ok (on_advance c _), on_bind_of_ok (on_word cs rest), on_pure]

theorem yields_text (content : String) (depth : Nat) :
    Yields (builder.tree depth) (stringText content.toList)
      (builder.scalar (.text content)) := by
  have hspells : SpellsString (content.toList.flatMap escapeChar) content.toList :=
    spellsString_flatMap spellsChar_escapeChar content.toList
  show Yields _ ('"' :: (content.toList.flatMap escapeChar ++ ['"'])) _
  apply yields_scalar (by decide) (by decide) rfl
  intro rest _
  rw [List.append_assoc, on_bind_of_ok (on_advance '"' _), List.singleton_append,
    on_bind_of_ok (on_stringRest hspells rest), on_pure]

theorem scalar?_of_isDigit {c : Char} (hc : c.isDigit = true) :
    scalar? c = some (Scalar.number <$> number) ∧ isBlank c = false ∧ c ≠ ']' := by
  have hnot {d : Char} (hd : d.isDigit = false) : c ≠ d := by
    rintro rfl
    rw [hd] at hc
    cases hc
  have hbegins : beginsNumber c = true := by
    rw [beginsNumber, hc, Bool.or_true]
  refine ⟨?_, ?_, hnot (by decide)⟩
  · rw [scalar?, if_pos hbegins]
    all_goals exact hnot (by decide)
  · simp only [isBlank, Bool.or_eq_false_iff, beq_eq_false_iff_ne]
    exact ⟨⟨⟨hnot (by decide), hnot (by decide)⟩, hnot (by decide)⟩, hnot (by decide)⟩

theorem print_integer (n : Nat) : (Number.integer n).print = Nat.toDigits 10 n := by
  show (Nat.repr n).toList = _
  rw [Nat.repr_eq_ofList_toDigits, String.toList_ofList]

/-- The digits of a natural number that fits are read as it. -/
theorem yields_count {n : Nat} (hn : n < Decimal.Word.limit) (depth : Nat) :
    Yields (builder.tree depth) (Nat.toDigits 10 n)
      (builder.scalar (.number (.integer n))) := by
  have hnumber (rest : List Char) (hrest : Ends rest) :
      (Scalar.number <$> number).on (Nat.toDigits 10 n ++ rest) =
        (.ok (.number (.integer n)), rest) :=
    on_map_of_ok Scalar.number (on_number hn hrest)
  obtain ⟨d, ds, hds, hd⟩ := Toml.Reader.exists_cons_toDigits n
  obtain ⟨hreader, hblank, hend⟩ := scalar?_of_isDigit hd
  rw [hds] at hnumber ⊢
  exact yields_scalar hblank hend hreader hnumber depth

/-! ### Lists -/

theorem make_array (builder : Builder α) (items : List Value) :
    builder.make (.array items) = builder.list <$> builder.makeItems items := by
  rw [make, map_eq_pure_bind]

/-- Either something is made of every item, or an item is refused and none before it. -/
theorem makeItems_cases (builder : Builder α) (items : List Value) :
    (∃ values, builder.makeItems items = .ok values ∧
      List.Forall₂ (fun item value ↦ builder.make item = .ok value) items values) ∨
    ∃ before refused later values what, items = before ++ refused :: later ∧
      builder.makeItems items = .error what ∧ builder.make refused = .error what ∧
      List.Forall₂ (fun item value ↦ builder.make item = .ok value) before values := by
  induction items with
  | nil => exact .inl ⟨[], rfl, .nil⟩
  | cons item items ih =>
    cases hitem : builder.make item with
    | error what =>
      refine .inr ⟨[], item, items, [], what, rfl, ?_, hitem, .nil⟩
      rw [makeItems, hitem]
      rfl
    | ok first =>
      rcases ih with ⟨values, hvalues, hforall⟩ |
        ⟨before, refused, later, values, what, rfl, hwhat, hrefused, hforall⟩
      · refine .inl ⟨first :: values, ?_, .cons hitem hforall⟩
        rw [makeItems, hitem, hvalues]
        rfl
      · refine .inr ⟨item :: before, refused, later, first :: values, what, rfl, ?_, hrefused,
          .cons hitem hforall⟩
        rw [makeItems, hitem, hwhat]
        rfl

theorem reads_items {tree : Reader α} {items : List Value} {values : List α}
    (hmade : List.Forall₂ (fun item value ↦ builder.make item = .ok value) items values)
    (hitems : ∀ item ∈ items, Yields tree item.print (builder.make item)) :
    List.Forall₂ (Reads tree) (items.map Value.print) values := by
  rw [List.forall₂_map_left_iff]
  induction hmade with
  | nil => exact .nil
  | @cons item value items values hitem _ ih =>
    obtain ⟨hfirst, hrest⟩ := List.forall_mem_cons.mp hitems
    rw [hitem] at hfirst
    exact .cons hfirst (ih hrest)

/-- An array is read as what is made of its items, or refused as the first that is refused. -/
theorem yields_array {depth : Nat} {items : List Value}
    (h : ∀ item ∈ items, Yields (builder.tree depth) item.print (builder.make item)) :
    Yields (builder.tree (depth + 1)) (Value.array items).print
      (builder.make (.array items)) := by
  rw [make_array, Value.print, printItems_eq_separated, List.cons_append]
  rcases makeItems_cases builder items with ⟨values, hvalues, hmade⟩ |
    ⟨before, refused, later, values, what, rfl, hwhat, hrefused, hmade⟩
  · rw [hvalues]
    exact reads_array (reads_items hmade h)
  · obtain ⟨hbefore, hlater⟩ := List.forall_mem_append.mp h
    have hreads := reads_items hmade hbefore
    have hstops : Refuses (builder.tree depth) refused.print what := by
      have hyields := (List.forall_mem_cons.mp hlater).1
      rwa [hrefused] at hyields
    rw [hwhat]
    refine ⟨⟨'[', _, rfl, by decide, by decide⟩, fun rest _ ↦ ?_⟩
    simp only [List.cons_append, List.append_assoc, List.nil_append, List.map_append,
      List.map_cons]
    apply Stops.value (by decide)
    show Stops (enclosedList (builder.list <$> items (builder.tree depth))) _ what
    refine .after (on_advance '[' _) (.closing (.map ?_ _) _)
    exact stops_items hreads hstops _ rest

/-! ### Objects -/

theorem make_object (builder : Builder α) (members : List (String × Value)) :
    builder.make (.object members) = builder.table <$> builder.makeMembers [] members := by
  rw [make, map_eq_pure_bind]

/-- What a builder makes of one more member after those before it. -/
def makeMember (builder : Builder α) (before : List (String × α)) (member : String × Value) :
    Except Mismatch (List (String × α)) := do
  builder.permit before member.1
  let made ← builder.make member.2
  return putMember member.1 made before

theorem makeMembers_cons (builder : Builder α) (before : List (String × α))
    (member : String × Value) (members : List (String × Value)) :
    builder.makeMembers before (member :: members) =
      builder.makeMember before member >>= fun made ↦ builder.makeMembers made members := by
  obtain ⟨name, value⟩ := member
  rw [makeMembers, makeMember, bind_assoc]
  congr 1
  funext _
  rw [bind_assoc]
  rfl

theorem printMember_eq (member : String × Value) :
    printMember member = '"' :: (member.1.toList.flatMap escapeChar ++
      '"' :: ':' :: member.2.print) := by
  simp [printMember, stringText]

theorem on_member_of_ok {tree : Reader α} {before after : List (String × α)}
    {member : String × Value} (hmember : builder.makeMember before member = .ok after)
    (hvalue : Yields tree member.2.print (builder.make member.2)) {rest : List Char}
    (hrest : Ends rest) :
    (builder.member tree before member.1).on (':' :: member.2.print ++ rest) =
      (.ok after, rest) := by
  cases hpermit : builder.permit before member.1 with
  | error what =>
    rw [makeMember, hpermit] at hmember
    cases hmember
  | ok _ =>
    cases hmade : builder.make member.2 with
    | error what =>
      rw [makeMember, hpermit, hmade] at hmember
      cases hmember
    | ok made =>
      rw [makeMember, hpermit, hmade] at hmember
      rw [hmade] at hvalue
      cases hmember
      exact on_member hpermit hvalue hrest

theorem stops_member_of_error {tree : Reader α} {before : List (String × α)}
    {member : String × Value} {what : Mismatch}
    (hmember : builder.makeMember before member = .error what)
    (hvalue : Yields tree member.2.print (builder.make member.2)) {rest : List Char}
    (hrest : Ends rest) :
    Stops (builder.member tree before member.1) (':' :: member.2.print ++ rest) what := by
  unfold Builder.member
  cases hpermit : builder.permit before member.1 with
  | error refusal =>
    rw [makeMember, hpermit] at hmember
    cases hmember
    exact (stops_accept what _).bind _
  | ok _ =>
    cases hmade : builder.make member.2 with
    | error refusal =>
      rw [makeMember, hpermit, hmade] at hmember
      rw [hmade] at hvalue
      cases hmember
      refine .after (on_accept rfl _) (.after (on_colon _) ?_)
      exact (hvalue.stops rest hrest).bind _
    | ok made =>
      rw [makeMember, hpermit, hmade] at hmember
      cases hmember

/-- Members as a reader meets them: the name and the whole text of each. -/
def spelledMembers (members : List (String × Value)) : List (String × List Char) :=
  members.map fun member ↦ (member.1, printMember member)

theorem map_snd_spelledMembers (members : List (String × Value)) :
    (spelledMembers members).map Prod.snd = members.map printMember := by
  rw [spelledMembers, List.map_map]
  rfl

theorem folds_cons {tree : Reader α} {before made final : List (String × α)}
    {member : String × Value} {members : List (String × List Char)}
    (hmember : builder.makeMember before member = .ok made)
    (hvalue : Yields tree member.2.print (builder.make member.2))
    (hmembers : Folds (builder.member tree) members made final) :
    Folds (builder.member tree) ((member.1, printMember member) :: members) before final := by
  have hname : SpellsString (member.1.toList.flatMap escapeChar) member.1.toList :=
    spellsString_flatMap spellsChar_escapeChar _
  rw [printMember_eq]
  exact .cons hname (fun rest hrest ↦ on_member_of_ok hmember hvalue hrest) hmembers

/-- Either the members are all taken in, or a member is refused and none before it. -/
theorem makeMembers_cases {tree : Reader α} {members : List (String × Value)}
    (before : List (String × α))
    (h : ∀ member ∈ members, Yields tree member.2.print (builder.make member.2)) :
    (∃ final, builder.makeMembers before members = .ok final ∧
      Folds (builder.member tree) (spelledMembers members) before final) ∨
    ∃ earlier refused later made what, members = earlier ++ refused :: later ∧
      builder.makeMembers before members = .error what ∧
      builder.makeMember made refused = .error what ∧
      Folds (builder.member tree) (spelledMembers earlier) before made := by
  induction members generalizing before with
  | nil => exact .inl ⟨before, rfl, .nil before⟩
  | cons member members ih =>
    obtain ⟨hvalue, hvalues⟩ := List.forall_mem_cons.mp h
    rw [makeMembers_cons]
    cases hmember : builder.makeMember before member with
    | error what => exact .inr ⟨[], member, members, before, what, rfl, rfl, hmember, .nil before⟩
    | ok made =>
      rcases ih made hvalues with ⟨final, hfinal, hfolds⟩ |
        ⟨earlier, refused, later, state, what, rfl, hwhat, hrefused, hfolds⟩
      · exact .inl ⟨final, hfinal, folds_cons hmember hvalue hfolds⟩
      · exact .inr ⟨member :: earlier, refused, later, state, what, rfl, hwhat, hrefused,
          folds_cons hmember hvalue hfolds⟩

/-- An object is refused for the first member that is refused. -/
theorem stops_objectBody {tree : Reader α} {earlier later : List (String × Value)}
    {refused : String × Value} {made : List (String × α)} {what : Mismatch}
    (hspecial : ∀ member ∈ (earlier ++ refused :: later).head?,
      builder.special member.1 = none)
    (hfolds : Folds (builder.member tree) (spelledMembers earlier) [] made)
    (hrefused : builder.makeMember made refused = .error what)
    (hvalue : Yields tree refused.2.print (builder.make refused.2)) (rest : List Char) :
    Stops (builder.objectBody tree)
      (separated ((earlier ++ refused :: later).map printMember) ++ '\x7d' :: rest) what := by
  have hname (name : String) : SpellsString (name.toList.flatMap escapeChar) name.toList :=
    spellsString_flatMap spellsChar_escapeChar _
  have hfold : Stops (foldMembers (builder.member tree) [])
      (separated ((earlier ++ refused :: later).map printMember) ++ '\x7d' :: rest) what := by
    have hstops := stops_foldMembers hfolds (hname refused.1)
      (fun rest hrest ↦ stops_member_of_error hrefused hvalue hrest) (later.map printMember) rest
    rwa [map_snd_spelledMembers, ← printMember_eq, ← List.map_cons, ← List.map_append] at hstops
  obtain ⟨first, members, hmembers⟩ :
      ∃ first members, earlier ++ refused :: later = first :: members :=
    List.exists_cons_of_ne_nil (by simp)
  rw [hmembers] at hspecial hfold ⊢
  have hnone : builder.special first.1 = none := hspecial first rfl
  refine .after (on_remaining _) ?_
  simp only [List.map_cons, separated, printMember_eq first, List.cons_append,
    List.append_assoc] at hfold ⊢
  refine .after (on_nextMember_first _) (.after (on_key (hname first.1) _) ?_)
  simp only [hnone]
  exact .after (on_resume _ _) (hfold.bind _)

/-- An object is read as what is made of its members, or refused as the first that is refused. -/
theorem yields_object {depth : Nat} {members : List (String × Value)}
    (hspecial : ∀ member ∈ members.head?, builder.special member.1 = none)
    (h : ∀ member ∈ members,
      Yields (builder.tree depth) member.2.print (builder.make member.2)) :
    Yields (builder.tree (depth + 1)) (Value.object members).print
      (builder.make (.object members)) := by
  rw [make_object, Value.print, printMembers_eq_separated, List.cons_append]
  rcases makeMembers_cases [] h with ⟨final, hfinal, hfolds⟩ |
    ⟨earlier, refused, later, made, what, rfl, hwhat, hrefused, hfolds⟩
  · have hfirst : ∀ member ∈ (spelledMembers members).head?,
        builder.special member.1 = none := by
      rw [spelledMembers, List.head?_map]
      rintro _ hfirst
      obtain ⟨member, hmember, rfl⟩ := Option.map_eq_some_iff.mp hfirst
      exact hspecial member hmember
    rw [hfinal, ← map_snd_spelledMembers]
    exact reads_object hfolds hfirst
  · have hvalue := h refused (by simp)
    rw [hwhat]
    refine ⟨⟨'\x7b', _, rfl, by decide, by decide⟩, fun rest _ ↦ ?_⟩
    simp only [List.cons_append, List.append_assoc, List.nil_append]
    apply Stops.value (by decide)
    show Stops (enclosedObject (builder.objectBody (builder.tree depth))) _ what
    refine .after (on_advance '\x7b' _) (.closing ?_ _)
    exact stops_objectBody hspecial hfolds hrefused hvalue rest

/-! ### Values -/

/-- A reader makes of a printed value what its builder makes of the value. -/
theorem yields_print {depth : Nat} {value : Value} (h : builder.Suits depth value) :
    Yields (builder.tree depth) value.print (builder.make value) := by
  induction h with
  | null depth => exact yields_word (by decide) (by decide) rfl depth
  | flag depth value =>
    cases value with
    | true | false => exact yields_word (by decide) (by decide) rfl depth
  | count depth hn =>
    rw [Value.ofNat, Value.print, print_integer]
    exact yields_count hn depth
  | text depth content => exact yields_text content depth
  | array _ ih => exact yields_array ih
  | object hspecial _ ih => exact yields_object hspecial ih

/-- A printed value is read as what the builder makes of it, and refused if that is refused. -/
theorem read_toText {value : Value} (h : builder.Suits maxDepth value) :
    (∀ a, builder.make value = .ok a → builder.read value.toText = .ok a) ∧
    ∀ what, builder.make value = .error what →
      ∃ place, builder.read value.toText = .error ⟨.mismatch what, place⟩ := by
  unfold Builder.read Value.toText
  rw [String.toList_ofList]
  exact (yields_print h).readAll_eq

end Builder

end ApiReference.Json
