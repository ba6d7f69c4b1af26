import ApiReference.Proofs.Json.Reader

/-!
# What Builders Make

Whatever text a builder reads, the value is put together by the steps of the builder.  A property
that all of them keep holds of every value that is read.
-/

namespace ApiReference.Json

open Decode

namespace Reader

/-- Whatever a reader gives has a property. -/
def Gives {α : Type} (P : α → Prop) (reader : Reader α) : Prop :=
  ∀ (text rest : List Char) (a : α), reader.on text = (.ok a, rest) → P a

namespace Gives

variable {α β : Type} {P : α → Prop} {Q : β → Prop} {reader : Reader α}

theorem pure {a : α} (h : P a) : Gives P (Pure.pure a : Reader α) := by
  intro text rest b hrun
  cases hrun
  exact h

theorem malformed (what : Malformed) (ahead : Nat) : Gives P (malformed what ahead) := by
  intro text rest a hrun
  cases hrun

theorem mismatch (what : Mismatch) : Gives P (mismatch what) := by
  intro text rest a hrun
  cases hrun

theorem accept {result : Except Mismatch α} (h : ∀ a, result = .ok a → P a) :
    Gives P (accept result) := by
  cases result with
  | ok a => exact pure (h a rfl)
  | error what => exact mismatch what

theorem any : Gives (fun _ ↦ True) reader := by
  intro text rest a _
  trivial

theorem bind {next : α → Reader β} (hreader : Gives P reader)
    (hnext : ∀ a, P a → Gives Q (next a)) : Gives Q (reader >>= next) := by
  intro text rest b hrun
  cases hfirst : reader.on text with
  | mk result between =>
    have hstep : reader.run.run text = Pure.pure (result, between) := hfirst
    unfold on at hrun
    rw [ExceptT.run_bind, StateT.run_bind, hstep] at hrun
    cases result with
    | error failure => cases hrun
    | ok a => exact hnext a (hreader _ _ _ hfirst) _ _ _ hrun

/-- Nothing needs to be known of what is read first. -/
theorem after {next : α → Reader β} (hnext : ∀ a, Gives Q (next a)) : Gives Q (reader >>= next) :=
  bind any fun a _ ↦ hnext a

theorem map {f : α → β} (hreader : Gives P reader) (h : ∀ a, P a → Q (f a)) :
    Gives Q (f <$> reader) := by
  rw [map_eq_pure_bind]
  exact bind hreader fun a ha ↦ pure (h a ha)

theorem ite {c : Prop} [Decidable c] {other : Reader α} (hreader : c → Gives P reader)
    (hother : ¬c → Gives P other) : Gives P (if c then reader else other) := by
  split
  case isTrue h => exact hreader h
  case isFalse h => exact hother h

theorem placed (hreader : Gives P reader) : Gives P (placed reader) := by
  intro text rest a hrun
  rw [Reader.placed, on_of] at hrun
  split at hrun
  · cases hrun
  · exact hreader _ _ _ hrun

theorem closing {finish : Reader Unit} (hreader : Gives P reader) :
    Gives P (closing reader finish) := by
  intro text rest a hrun
  rw [Reader.closing, on_of] at hrun
  cases hbody : reader.on text with
  | mk result between =>
    rw [hbody] at hrun
    cases result with
    | error failure => cases hrun
    | ok value =>
      dsimp only at hrun
      split at hrun
      · cases hrun
        exact hreader _ _ _ hbody
      · cases hrun

theorem value {read : Char → Reader α} (hread : ∀ c, Gives P (read c)) : Gives P (value read) := by
  refine placed (after fun next ↦ ?_)
  cases next with
  | none => exact malformed _ _
  | some c => exact hread c

theorem items {item : Reader α} (hitem : Gives P item) :
    Gives (fun values ↦ ∀ value ∈ values, P value) (items item) := by
  have hgo (fuel : Nat) (first : Bool) :
      Gives (fun values ↦ ∀ value ∈ values, P value) (items.go item fuel first) := by
    induction fuel generalizing first with
    | zero => exact malformed _ _
    | succ fuel ih =>
      refine after fun next ↦ ite (fun _ ↦ ?_) fun _ ↦ pure (by simp)
      exact bind hitem fun value hvalue ↦ bind (ih false) fun values hvalues ↦
        pure (List.forall_mem_cons.mpr ⟨hvalue, hvalues⟩)
  exact after fun fuel ↦ hgo fuel true

theorem foldMembers {member : β → String → Reader β} {initial : β} (hinitial : Q initial)
    (hmember : ∀ state, Q state → ∀ key, Gives Q (member state key)) :
    Gives Q (foldMembers member initial) := by
  have hgo (fuel : Nat) (first : Bool) (state : β) (hstate : Q state) :
      Gives Q (foldMembers.go member fuel first state) := by
    induction fuel generalizing first state with
    | zero => exact malformed _ _
    | succ fuel ih =>
      refine after fun next ↦ ite (fun _ ↦ ?_) fun _ ↦ pure hstate
      exact after fun key ↦ bind (hmember state hstate key) fun state hstate ↦ ih false state hstate
  exact after fun fuel ↦ hgo fuel true initial hinitial

end Gives

end Reader

namespace Builder

variable {α : Type} {P : α → Prop} {builder : Builder α}

/-- All that a builder makes of parts with a property has the property. -/
structure Keeps (builder : Builder α) (P : α → Prop) : Prop where
  scalar : ∀ {scalar a}, builder.scalar scalar = .ok a → P a
  list : ∀ {items}, (∀ item ∈ items, P item) → P (builder.list items)
  table : ∀ {members}, (∀ member ∈ members, P member.2) → P (builder.table members)
  special : ∀ {key expected convert}, builder.special key = some (expected, convert) →
    ∀ {text a}, convert text = .ok a → P a

theorem forall_mem_putMember {key : String} {value : α} {members : List (String × α)}
    (hvalue : P value) (h : ∀ member ∈ members, P member.2) :
    ∀ member ∈ putMember key value members, P member.2 := by
  induction members with
  | nil => exact List.forall_mem_singleton.mpr hvalue
  | cons member rest ih =>
    obtain ⟨hmember, hrest⟩ := List.forall_mem_cons.mp h
    unfold putMember
    split
    · exact List.forall_mem_cons.mpr ⟨hvalue, hrest⟩
    · exact List.forall_mem_cons.mpr ⟨hmember, ih hrest⟩

theorem Keeps.gives_objectBody (h : builder.Keeps P) {tree : Reader α}
    (htree : Reader.Gives P tree) : Reader.Gives P (builder.objectBody tree) := by
  refine .after fun start ↦ .after fun next ↦ .ite (fun _ ↦ ?_) fun _ ↦ .pure (h.table (by simp))
  refine .after fun key ↦ ?_
  split
  case h_1 expected convert hspecial =>
    exact .after fun _ ↦ .placed (.after fun text ↦ .accept fun a ha ↦ h.special hspecial ha)
  case h_2 =>
    refine .after fun _ ↦ .bind (.foldMembers ?_ fun members hmembers key ↦ ?_)
      fun members hmembers ↦ .pure (h.table hmembers)
    · simp
    · exact .after fun _ ↦ .after fun _ ↦ .bind htree fun value hvalue ↦
        .pure (forall_mem_putMember hvalue hmembers)

/-- What is kept by every part of a builder holds of the whole tree. -/
theorem Keeps.gives_tree (h : builder.Keeps P) (depth : Nat) :
    Reader.Gives P (builder.tree depth) := by
  induction depth with
  | zero =>
    refine .value fun c ↦ ?_
    split
    · exact .after fun scalar ↦ .accept fun a ha ↦ h.scalar ha
    · exact .ite (fun _ ↦ .malformed _ _) fun _ ↦ .malformed _ _
  | succ depth ih =>
    refine .value fun c ↦ ?_
    split
    · exact .after fun scalar ↦ .accept fun a ha ↦ h.scalar ha
    · refine .ite (fun _ ↦ ?_) fun _ ↦ .ite (fun _ ↦ ?_) fun _ ↦ .malformed _ _
      · exact .after fun _ ↦ .closing (.map (.items ih) fun items hitems ↦ h.list hitems)
      · exact .after fun _ ↦ .closing (h.gives_objectBody ih)

/-- What a builder keeps holds of all that it reads. -/
theorem Keeps.of_read (h : builder.Keeps P) {text : String} {a : α}
    (hread : builder.read text = .ok a) : P a := by
  have hgives : Reader.Gives P (builder.tree maxDepth >>= fun value ↦
      Reader.finished >>= fun _ ↦ pure value) :=
    .bind (h.gives_tree maxDepth) fun value hvalue ↦ .after fun _ ↦ .pure hvalue
  unfold Builder.read Reader.readAll at hread
  split at hread
  case h_1 value rest hon =>
    cases hread
    exact hgives _ _ _ hon
  case h_2 => cases hread

end Builder

end ApiReference.Json
