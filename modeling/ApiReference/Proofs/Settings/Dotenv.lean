import ApiReference.Settings.Dotenv
import Mathlib

/-!
# What a File of Variables Depends On

The lines of a file of variables may refer to variables that are set already.  What the lines set,
and whether they are refused, depends only on the values of these.
-/

namespace ApiReference.Settings.Dotenv

open Text

variable {environment other : Environment}

/-- A variable that is set keeps its value, and another is set after all others. -/
theorem cases_of_define_eq_ok {name value : String} {defined : Environment}
    (h : define environment name value = .ok defined) :
    defined = environment ∨
      environment.lookup name = none ∧ defined = environment ++ [(name, value)] := by
  unfold define at h
  split_ifs at h with hset hnull
  · cases h
    exact .inl rfl
  · cases h
    exact .inr ⟨Option.not_isSome_iff_eq_none.mp hset, rfl⟩

/-! ## Variables with the same values -/

/-- Variables with the same values. -/
def Agree (environment other : Environment) : Prop :=
  ∀ name, environment.lookup name = other.lookup name

theorem Agree.valueOf_eq (h : Agree environment other) : valueOf environment = valueOf other := by
  funext name
  rw [valueOf, valueOf, h]

/-- Substitutions in a value are the same. -/
theorem Agree.value_eq (h : Agree environment other) (text : List Char) :
    value environment text = value other text := by
  have hgo (mode : Mode) (index : Nat) (cs : List Char) :
      value.go environment text mode index cs = value.go other text mode index cs := by
    induction cs generalizing mode index with
    | nil => simp only [value.go, Mode.finish, h.valueOf_eq]
    | cons c rest ih => simp only [value.go, Mode.next, h.valueOf_eq, ih]
  exact hgo _ _ _

theorem Agree.assigned?_eq (h : Agree environment other) (line : List Char) :
    assigned? environment line = assigned? other line := by
  simp only [assigned?, h.value_eq]

/-- Variables that are added in the same order are looked up the same. -/
theorem Agree.append (h : Agree environment other) (added : Environment) :
    Agree (environment ++ added) (other ++ added) := by
  intro name
  rw [List.lookup_append, List.lookup_append, h name]

/-- Lines set the same where variables agree, and are refused alike. -/
theorem Agree.loadLines (h : Agree environment other)
    (lines : List (Except Failure (List Char))) :
    Agree (loadLines environment lines).1 (loadLines other lines).1 ∧
      (loadLines environment lines).2 = (loadLines other lines).2 := by
  induction lines generalizing environment other with
  | nil => exact ⟨h, rfl⟩
  | cons line rest ih =>
    cases line with
    | error failure => exact ⟨h, rfl⟩
    | ok line =>
      rw [Dotenv.loadLines, Dotenv.loadLines, h.assigned?_eq]
      cases assigned? other line with
      | error failure => exact ⟨h, rfl⟩
      | ok assigned =>
        cases assigned with
        | none => exact ih h
        | some assigned =>
          dsimp only [define]
          rw [h assigned.1]
          split_ifs
          · exact ih h
          · exact ⟨h, rfl⟩
          · exact ih (h.append _)

end ApiReference.Settings.Dotenv
