import ApiReference.Files
import ApiReference.Proofs.Text.Split

/-!
# One More File

A file that is put into the working directory is the nearest of its name.  Paths that do not end in
the name lead where they led before, since no path goes on through a file.
-/

namespace ApiReference.Files

open Text

/-- The file of a name in the working directory itself. -/
def own? (files : Files) (name : String) : Option (List UInt8) :=
  files.file? (name :: files.directory)

/-- The nearest file of a name, if there is one, is in the working directory itself. -/
def IsLocal (files : Files) (name : String) : Prop :=
  files.nearest? name files.directory = files.own? name

/-- The working directory has room for a file of a name, as no directory has the name. -/
def HasRoom (files : Files) (name : String) : Prop :=
  files.at? (name :: files.directory) ≠ some .directory

/-- The files with one in the working directory, in place of a file of that name. -/
def put (files : Files) (name : String) (bytes : List UInt8) : Files :=
  { files with entries := (name :: files.directory, .file bytes) :: files.entries }

variable {files : Files} {name : String} {bytes : List UInt8}

/-! ## Places -/

/-- No place is above its own directory. -/
theorem not_cons_suffix (name : String) (place : Place) : ¬name :: place <:+ place := by
  intro hsuffix
  have hlength := hsuffix.length_le
  rw [List.length_cons] at hlength
  omega

theorem at?_put_self (files : Files) (name : String) (bytes : List UInt8) :
    (files.put name bytes).at? (name :: files.directory) = some (.file bytes) := by
  have houtside : ¬(name :: files.directory).isSuffixOf files.directory = true :=
    mt List.isSuffixOf_iff_suffix.mp (not_cons_suffix name files.directory)
  rw [at?, put, if_neg houtside, List.lookup_cons_self]

/-- A file that is put there changes nothing elsewhere. -/
theorem at?_put_of_ne {place : Place} (h : place ≠ name :: files.directory) :
    (files.put name bytes).at? place = files.at? place := by
  unfold at? put
  dsimp only
  by_cases hinside : place.isSuffixOf files.directory
  · rw [if_pos hinside, if_pos hinside]
  · -- the new file adds no directory, as those above it are above the working directory
    have habove : place.isSuffixOf (name :: files.directory) = false := by
      apply Bool.eq_false_iff.mpr
      intro htrue
      rcases List.suffix_cons_iff.mp (List.isSuffixOf_iff_suffix.mp htrue) with heq | hsuffix
      · exact h heq
      · exact hinside (List.isSuffixOf_iff_suffix.mpr hsuffix)
    rw [if_neg hinside, if_neg hinside, List.lookup_cons, beq_false_of_ne h, List.any_cons, habove,
      Bool.false_or]

theorem own?_put (files : Files) (name : String) (bytes : List UInt8) :
    (files.put name bytes).own? name = some bytes := by
  rw [own?, file?, show (files.put name bytes).directory = files.directory from rfl, at?_put_self]

/-- A file in the working directory is nearer than any above. -/
theorem nearest?_of_own? (h : files.own? name = some bytes) :
    files.nearest? name files.directory = some bytes := by
  unfold own? at h
  cases hdirectory : files.directory with
  | nil =>
    rw [nearest?, ← hdirectory]
    exact h
  | cons step above =>
    rw [nearest?, ← hdirectory, h, Option.some_or]

/-! ## Paths -/

/-- A step comes to a place, or to one below it, only from there or by entering it. -/
theorem eq_of_suffix_move {place here : Place} {step : String} (hhere : ¬place <:+ here)
    (h : place <:+ move here step) : move here step = place ∧ place = step :: here := by
  unfold move at h ⊢
  split_ifs at h ⊢ with hstay hup
  · exact absurd h hhere
  · exact absurd (h.trans (List.tail_suffix here)) hhere
  · rcases List.suffix_cons_iff.mp h with heq | hsuffix
    · exact ⟨heq.symm, heq⟩
    · exact absurd hsuffix hhere

/-- No step leads out of what is no directory. -/
theorem walk_of_not_directory {here : Place} (h : files.at? here ≠ some .directory)
    (step : String) (rest : List String) : walk files (step :: rest) here = none := by
  unfold walk
  split
  case h_1 hdirectory => exact absurd hdirectory h
  case h_2 => rfl

/-- A walk that does not end in the name goes as before, if it does not begin there. -/
theorem walk_put {path : List String} {here : Place} (hroom : files.HasRoom name)
    (hhere : ¬name :: files.directory <:+ here) (hpath : path.getLast? ≠ some name) :
    walk (files.put name bytes) path here = walk files path here := by
  have hne : here ≠ name :: files.directory := by
    rintro rfl
    exact hhere (List.suffix_refl _)
  induction path generalizing here with
  | nil => exact at?_put_of_ne hne
  | cons step rest ih =>
    rw [walk, walk, at?_put_of_ne hne]
    split
    case h_2 => rfl
    case h_1 =>
      by_cases hinto : name :: files.directory <:+ move here step
      · -- the walk has come to the file, where it cannot go on
        obtain ⟨hmove, hplace⟩ := eq_of_suffix_move hhere hinto
        obtain ⟨rfl, -⟩ := List.cons.inj hplace
        obtain ⟨next, later, rfl⟩ : ∃ next later, rest = next :: later := by
          apply List.exists_cons_of_ne_nil
          rintro rfl
          exact hpath rfl
        have hfile : (files.put name bytes).at? (name :: files.directory) ≠ some .directory := by
          rw [at?_put_self]
          simp
        rw [hmove, walk_of_not_directory hfile, walk_of_not_directory hroom]
      · have hrest : rest.getLast? ≠ some name := by
          cases rest with
          | nil => simp
          | cons next later => rwa [List.getLast?_cons_cons] at hpath
        refine ih hinto hrest ?_
        rintro heq
        exact hinto (heq ▸ List.suffix_refl _)

/-- A path that does not end in the name of a new file leads where it led before. -/
theorem find?_put (hroom : files.HasRoom name) {path : String}
    (hpath : (steps path).getLast? ≠ some name) :
    (files.put name bytes).find? path = files.find? path := by
  have hbeginning : ¬name :: files.directory <:+ beginning files.directory path := by
    unfold beginning
    split
    · simp
    · exact not_cons_suffix name files.directory
  unfold find?
  rw [show (files.put name bytes).directory = files.directory from rfl,
    walk_put hroom hbeginning hpath]

/-- A path to a name whose only point is at its beginning has no extension. -/
theorem extension?_eq_none {rest : List Char} (hname : name.toList = '.' :: rest)
    (hrest : rest ≠ []) (hpoint : '.' ∉ rest) {path : String}
    (hpath : (steps path).getLast? = some name) : extension? path = none := by
  have hkept : ([name].filter fun step ↦ step != "" && step != ".") = [name] := by
    have hempty : name ≠ "" := by
      rintro rfl
      cases hname
    have hhere : name ≠ "." := by
      rintro rfl
      cases hname
      exact hrest rfl
    simp [hempty, hhere]
  have hlast : ((steps path).filter fun step ↦ step != "" && step != ".").getLast? =
      some name := by
    obtain ⟨before, hbefore⟩ := List.getLast?_eq_some_iff.mp hpath
    rw [hbefore, List.filter_append, hkept, List.getLast?_append, List.getLast?_singleton,
      Option.some_or]
  have hsplit : splitFirst '.' name.toList.reverse = some (rest.reverse, []) := by
    rw [hname, List.reverse_cons]
    apply splitFirst_append
    simpa using hpoint
  simp [extension?, hlast, hsplit]

end ApiReference.Files
