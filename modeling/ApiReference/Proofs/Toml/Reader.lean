import ApiReference.Proofs.Json.Builder
import ApiReference.Proofs.Toml.Document
import ApiReference.Toml.FromJson
import ApiReference.Toml.Reader

/-!
# The Values of Texts

What a reader gives, whenever it gives something, is found by following its steps.  So every value
that a TOML text or a JSON text spells is well-formed.
-/

namespace ApiReference.Toml

open Decimal

namespace Reader

/-! ## What readers give -/

/-- Whatever a reader gives has a property. -/
def Gives {α : Type} (P : α → Prop) (reader : Reader α) : Prop :=
  ∀ (text rest : List Char) (a : α), reader.run text = some (a, rest) → P a

namespace Gives

variable {α β : Type} {P : α → Prop} {Q : β → Prop} {reader : Reader α}

theorem pure {a : α} (h : P a) : Gives P (Pure.pure a : Reader α) := by
  intro text rest b hrun
  cases hrun
  exact h

theorem failure : Gives P (Alternative.failure : Reader α) := by
  intro text rest a hrun
  cases hrun

theorem bind {next : α → Reader β} (hreader : Gives P reader)
    (hnext : ∀ a, P a → Gives Q (next a)) : Gives Q (reader >>= next) := by
  intro text rest b hrun
  rw [StateT.run_bind] at hrun
  obtain ⟨⟨a, between⟩, hfirst, hsecond⟩ := Option.bind_eq_some_iff.mp hrun
  exact hnext a (hreader _ _ _ hfirst) _ _ _ hsecond

theorem any : Gives (fun _ ↦ True) reader := by
  intro text rest a _
  trivial

/-- Nothing needs to be known of what is read first. -/
theorem after {next : α → Reader β} (hnext : ∀ a, Gives Q (next a)) : Gives Q (reader >>= next) :=
  bind any fun a _ ↦ hnext a

theorem map {f : α → β} (hreader : Gives P reader) (h : ∀ a, P a → Q (f a)) :
    Gives Q (f <$> reader) := by
  rw [map_eq_pure_bind]
  exact bind hreader fun a ha ↦ pure (h a ha)

theorem ofOption {value? : Option α} (h : ∀ a, value? = some a → P a) :
    Gives P (liftM value? : Reader α) := by
  intro text rest a hrun
  cases value? with
  | none => cases hrun
  | some found =>
    cases hrun
    exact h a rfl

theorem orElse {other : Reader α} (hreader : Gives P reader) (hother : Gives P other) :
    Gives P (reader <|> other) := by
  intro text rest a hrun
  have hor : (reader.run text).or (other.run text) = some (a, rest) := by
    rw [Option.or_eq_orElse]
    exact hrun
  rcases Option.or_eq_some_iff.mp hor with hrun | ⟨-, hrun⟩
  · exact hreader _ _ _ hrun
  · exact hother _ _ _ hrun

theorem ite {c : Prop} [Decidable c] {other : Reader α} (hreader : c → Gives P reader)
    (hother : ¬c → Gives P other) : Gives P (if c then reader else other) := by
  split
  case isTrue h => exact hreader h
  case isFalse h => exact hother h

/-- What is read under a condition comes before the rest in any case. -/
theorem afterIf {c : Prop} [Decidable c] {first : Reader PUnit} {next : PUnit → Reader β}
    (hnext : ∀ u, Gives Q (next u)) : Gives Q (if c then first >>= next else next ⟨⟩) :=
  .ite (fun _ ↦ .after hnext) fun _ ↦ hnext ⟨⟩

end Gives

/-! ## Scalars -/

theorem gives_integerIn (base : Nat) (isDigit : Char → Bool) :
    Gives Value.WellFormed (integerIn base isDigit) :=
  .after fun _ ↦ .ite (fun hlimit ↦ .pure (.integer (Int.ofNat_lt.mpr hlimit))) fun _ ↦ .failure

theorem gives_decimal : Gives Value.WellFormed integer.decimal :=
  .after fun _ ↦ .after fun _ ↦ .ite (fun hlimits ↦ .pure (.integer hlimits.2)) fun _ ↦ .failure

theorem gives_integer : Gives Value.WellFormed integer :=
  .orElse (.after fun _ ↦ gives_integerIn _ _) <| .orElse (.after fun _ ↦ gives_integerIn _ _) <|
    .orElse (.after fun _ ↦ gives_integerIn _ _) gives_decimal

theorem gives_decimalDouble : Gives Value.WellFormed decimalDouble := by
  refine .after fun negative ↦ .after fun whole ↦ .after fun fraction ↦ .after fun power ↦ ?_
  exact .afterIf fun _ ↦ .ite (fun _ ↦ .failure) fun _ ↦ .pure (.double _)

theorem gives_specialDouble : Gives Value.WellFormed specialDouble :=
  .after fun _ ↦ .orElse (.after fun _ ↦ .pure (.double _)) (.after fun _ ↦ .pure (.double _))

theorem gives_datetime : Gives Value.WellFormed datetime := by
  refine .orElse (.after fun date ↦ .after fun time ↦ ?_) (.after fun time ↦ .pure (.datetime _))
  split <;> exact .pure (.datetime _)

theorem gives_scalar (c : Char) : Gives Value.WellFormed (scalar c) := by
  unfold scalar
  split_ifs
  · exact .map .any fun cs _ ↦ .text _
  · exact .after fun _ ↦ .pure (.flag true)
  · exact .after fun _ ↦ .pure (.flag false)
  · exact gives_specialDouble
  · exact .orElse gives_datetime <| .orElse gives_decimalDouble <|
      .orElse gives_specialDouble gives_integer
  · exact .failure

/-! ## Items -/

theorem gives_arrayItems {reader : Reader Item} (h : Gives Item.WellFormed reader) :
    Gives (fun items ↦ ∀ item ∈ items, item.WellFormed) (arrayItems reader) := by
  refine .after fun fuel ↦ ?_
  induction fuel with
  | zero => exact .failure
  | succ fuel ih =>
    unfold arrayItems.go
    refine .after fun _ ↦ .after fun next ↦ .ite (fun _ ↦ .after fun _ ↦ .pure (by simp)) fun _ ↦ ?_
    refine .bind h fun item hitem ↦ .after fun _ ↦ .after fun next ↦ .ite (fun _ ↦ ?_) fun _ ↦ ?_
    · exact .after fun _ ↦ .bind ih fun items hitems ↦
        .pure (List.forall_mem_cons.mpr ⟨hitem, hitems⟩)
    · exact .after fun _ ↦ .pure (List.forall_mem_singleton.mpr hitem)

theorem gives_pair {reader : Reader Item} (h : Gives Item.WellFormed reader) :
    Gives (fun pair ↦ pair.item.WellFormed) (pair reader) :=
  .after fun _ ↦ .after fun _ ↦ .after fun _ ↦ .bind h fun _ hitem ↦ .pure hitem

theorem gives_bracePairs {reader : Reader Item} (h : Gives Item.WellFormed reader) :
    Gives (fun pairs ↦ ∀ pair ∈ pairs, pair.item.WellFormed) (bracePairs reader) := by
  refine .after fun _ ↦ .after fun next ↦ .ite (fun _ ↦ .after fun _ ↦ .pure (by simp)) fun _ ↦ ?_
  refine .after fun fuel ↦ ?_
  induction fuel with
  | zero => exact .failure
  | succ fuel ih =>
    unfold bracePairs.go
    refine .bind (gives_pair h) fun pair hpair ↦ .after fun _ ↦ .after fun next ↦
      .ite (fun _ ↦ ?_) fun _ ↦ ?_
    · exact .after fun _ ↦ .bind ih fun pairs hpairs ↦
        .pure (List.forall_mem_cons.mpr ⟨hpair, hpairs⟩)
    · exact .after fun _ ↦ .pure (List.forall_mem_singleton.mpr hpair)

theorem gives_item (depth : Nat) : Gives Item.WellFormed (item depth) := by
  induction depth with
  | zero =>
    exact .after fun _ ↦ .after fun c ↦ .map (gives_scalar c) fun value hvalue ↦ .scalar hvalue
  | succ depth ih =>
    refine .after fun _ ↦ .after fun c ↦ .ite (fun _ ↦ ?_) fun _ ↦ .ite (fun _ ↦ ?_) fun _ ↦ ?_
    · exact .after fun _ ↦ .bind (gives_arrayItems ih) fun items hitems ↦ .pure (.array hitems)
    · refine .after fun _ ↦ .bind (gives_bracePairs ih) fun pairs hpairs ↦ ?_
      exact .bind (.ofOption fun entries hadded ↦ Entries.keeps_addPairs hpairs .nil hadded)
        fun entries hentries ↦ .pure (.table _ hentries)
    · exact .map (gives_scalar c) fun value hvalue ↦ .scalar hvalue

/-! ## Documents -/

/-- The item of a line is well-formed, if it has one. -/
def Line.WellFormed : Line → Prop
  | .pair found => found.item.WellFormed
  | _ => True

theorem gives_header : Gives Line.WellFormed header := by
  refine .after fun next ↦ .afterIf fun _ ↦ .after fun path ↦ .after fun _ ↦ ?_
  exact .afterIf fun _ ↦ .after fun _ ↦ .pure trivial

theorem gives_line : Gives Line.WellFormed line := by
  refine .after fun next ↦ ?_
  split
  case h_4 => exact .after fun _ ↦ gives_header
  case h_5 =>
    exact .bind (gives_pair (gives_item _)) fun pair hpair ↦ .after fun _ ↦ .pure hpair
  all_goals exact .after fun _ ↦ .pure trivial

theorem gives_lines : Gives (fun lines ↦ ∀ line ∈ lines, line.WellFormed) lines := by
  refine .after fun fuel ↦ ?_
  induction fuel with
  | zero => exact .failure
  | succ fuel ih =>
    unfold lines.go
    refine .after fun _ ↦ .after fun rest ↦ .ite (fun _ ↦ .pure (by simp)) fun _ ↦ ?_
    exact .bind gives_line fun line hline ↦ .bind ih fun lines hlines ↦
      .pure (List.forall_mem_cons.mpr ⟨hline, hlines⟩)

end Reader

theorem wellFormed_sectionsOf {lines : List Reader.Line} (h : ∀ line ∈ lines, line.WellFormed) :
    (∀ pair ∈ (sectionsOf lines).1, pair.item.WellFormed) ∧
      ∀ part ∈ (sectionsOf lines).2, ∀ pair ∈ part.pairs, pair.item.WellFormed := by
  induction lines with
  | nil => exact ⟨by simp [sectionsOf], by simp [sectionsOf]⟩
  | cons line rest ih =>
    obtain ⟨hline, hrest⟩ := List.forall_mem_cons.mp h
    obtain ⟨hpairs, hsections⟩ := ih hrest
    cases line with
    | nothing => exact ⟨hpairs, hsections⟩
    | pair pair => exact ⟨List.forall_mem_cons.mpr ⟨hline, hpairs⟩, hsections⟩
    | header path repeated =>
      exact ⟨by simp [sectionsOf], List.forall_mem_cons.mpr ⟨hpairs, hsections⟩⟩

theorem Value.wellFormed_of_read? {text : String} {value : Value} (h : read? text = some value) :
    value.WellFormed := by
  obtain ⟨sections, hsections, h⟩ := Option.bind_eq_some_iff.mp h
  obtain ⟨entries, hentries, hvalue⟩ := Option.bind_eq_some_iff.mp h
  have hparts : ∀ part ∈ sections, ∀ pair ∈ part.pairs, pair.item.WellFormed := by
    obtain ⟨⟨lines, rest⟩, hlines, hsections⟩ := Option.bind_eq_some_iff.mp hsections
    obtain ⟨hpairs, hrest⟩ := wellFormed_sectionsOf (Reader.gives_lines _ _ _ hlines)
    cases hsections
    exact List.forall_mem_cons.mpr ⟨hpairs, hrest⟩
  exact wellFormed_tableValue?
    (fun entry hentry ↦ (Entries.wellFormed_ofSections hparts hentries entry hentry).valued) hvalue

/-! ## JSON texts -/

theorem Value.keeps_builder : Value.builder.Keeps Value.WellFormed where
  scalar {scalar a} h := by
    unfold Value.builder at h
    dsimp only at h
    split at h
    case h_3 value =>
      split at h
      case isTrue hvalue =>
        cases h
        exact .integer hvalue
      case isFalse => cases h
    all_goals cases h
    · exact .flag _
    · exact .double _
    · exact .text _
  list hitems := .array hitems
  table hmembers := .ofEntries hmembers
  special {key expected convert} h := by
    intro text a ha
    unfold Value.builder at h
    dsimp only at h
    split at h
    case isTrue =>
      cases h
      dsimp only at ha
      split at ha
      · cases ha
        exact .datetime _
      · cases ha
    case isFalse => cases h

theorem Value.wellFormed_of_readJson {text : String} {value : Value}
    (h : readJson text = .ok value) : value.WellFormed :=
  keeps_builder.of_read h

end ApiReference.Toml
