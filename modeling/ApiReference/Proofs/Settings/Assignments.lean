import ApiReference.Proofs.Files
import ApiReference.Proofs.Settings.Dotenv
import ApiReference.Proofs.Text.Utf8

/-!
# Assignments in a File of Variables

A line with a name, an equals sign and a plain value sets a variable to the value, and only names
can be set.  At the start of the file the line is read before all others, which are read as they
would be without it.
-/

namespace ApiReference.Settings.Dotenv

open Text

/-! ## Assignments -/

/-- A name that a line can set. -/
structure IsName (name : String) : Prop where
  begins : name.toList.head?.any beginsName = true
  continues : ∀ c ∈ name.toList, isNameChar c = true

/-- Whether a character stands for itself in a value. -/
def isPlainChar (c : Char) : Bool :=
  c.isAlphanum || c ∈ ['/', '.', '-', '_']

/-- A value that is written as it is: letters and digits of ASCII, slashes, points, hyphens and
underscores. -/
def IsPlain (value : String) : Prop :=
  ∀ c ∈ value.toList, isPlainChar c = true

def assignment (name value : String) : List Char :=
  name.toList ++ '=' :: value.toList

/-- Whether a character may stand in a line that sets a variable to a plain value. -/
def isAssignmentChar (c : Char) : Bool :=
  isPlainChar c || c == '='

theorem toNat_lt_of_isAssignmentChar {c : Char} (h : isAssignmentChar c = true) :
    c.toNat < 128 := by
  simp only [isAssignmentChar, isPlainChar, Bool.or_eq_true, decide_eq_true_eq, List.mem_cons,
    List.not_mem_nil, or_false, beq_iff_eq] at h
  rcases h with (h | rfl | rfl | rfl | rfl) | rfl
  · exact Utf8.toNat_lt_of_isAlphanum h
  all_goals decide

/-- The characters of an assignment are no blanks, open no quote and begin no comment. -/
theorem of_isAssignmentChar {c : Char} (h : isAssignmentChar c = true) :
    isBlankChar c = false ∧ Standing.next .complete c = some .complete ∧ c ≠ '#' ∧
      UInt8.ofNat c.toNat ≠ 0x0a ∧ UInt8.ofNat c.toNat ≠ 0xef := by
  exact Utf8.forall_ascii (p := fun c ↦ isAssignmentChar c = true → isBlankChar c = false ∧
    Standing.next .complete c = some .complete ∧ c ≠ '#' ∧ UInt8.ofNat c.toNat ≠ 0x0a ∧
      UInt8.ofNat c.toNat ≠ 0xef) (by decide +kernel) (toNat_lt_of_isAssignmentChar h) h

/-- A plain character stands for itself outside of quotes. -/
theorem next_of_isPlainChar {c : Char} (h : isPlainChar c = true) (environment : Environment) :
    Mode.next (.plain false) environment c = some (.plain false, [c]) := by
  have hlt : c.toNat < 128 := toNat_lt_of_isAssignmentChar (by simp [isAssignmentChar, h])
  exact Utf8.forall_ascii (p := fun c ↦ isPlainChar c = true →
    Mode.next (.plain false) [] c = some (.plain false, [c])) (by decide +kernel) hlt h

theorem isPlainChar_of_isNameChar {c : Char} (h : isNameChar c = true) : isPlainChar c = true := by
  simp only [isNameChar, isPlainChar, Bool.or_eq_true, beq_iff_eq] at h ⊢
  rcases h with (h | rfl) | rfl
  · exact .inl h
  · exact .inr (by decide)
  · exact .inr (by decide)

theorem isNameChar_equals : isNameChar '=' = false := by
  decide

theorem isNameChar_of_beginsName {c : Char} (h : beginsName c = true) : isNameChar c = true := by
  simp only [beginsName, isNameChar, Char.isAlphanum, Bool.or_eq_true] at h ⊢
  tauto

theorem trimEnd_eq_self {cs : List Char} (h : ∀ c ∈ cs, isBlankChar c = false) :
    trimEnd cs = cs := by
  have hreverse : cs.reverse.dropWhile isBlankChar = cs.reverse := by
    apply List.dropWhile_eq_self_iff.mpr
    intro hlength
    simpa using h _ (List.mem_reverse.mp (List.getElem_mem hlength))
  rw [trimEnd, trimStart, hreverse, List.reverse_reverse]

theorem skip_eq_self {cursor : Cursor} (h : ∀ c ∈ cursor.rest, isBlankChar c = false) :
    cursor.skip isBlankChar = cursor := by
  obtain ⟨position, rest⟩ := cursor
  cases rest with
  | nil => rfl
  | cons c rest =>
    have hc : isBlankChar c = false := h c List.mem_cons_self
    simp [Cursor.skip, hc, Utf8.length, Utf8.encode]

theorem IsName.exists_cons {name : String} (h : IsName name) :
    ∃ c rest, name.toList = c :: rest ∧ beginsName c = true := by
  have hbegins := h.begins
  cases hlist : name.toList with
  | nil =>
    rw [hlist] at hbegins
    cases hbegins
  | cons c rest =>
    rw [hlist] at hbegins
    exact ⟨c, rest, rfl, hbegins⟩

section

variable {name value : String}

theorem value_eq_self (hvalue : IsPlain value) (environment : Environment) :
    Dotenv.value environment value.toList = .ok value.toList := by
  have hgo (text : List Char) (index : Nat) (cs : List Char)
      (hcs : ∀ c ∈ cs, isPlainChar c = true) :
      Dotenv.value.go environment text (.plain false) index cs = .ok cs := by
    induction cs generalizing index with
    | nil => rfl
    | cons c cs ih =>
      obtain ⟨hc, hcs⟩ := List.forall_mem_cons.mp hcs
      rw [Dotenv.value.go, if_neg (by simp), next_of_isPlainChar hc]
      simp only [ih (index + 1) hcs]
      rfl
  exact hgo _ _ _ hvalue

variable (hname : IsName name) (hvalue : IsPlain value)

include hname

/-- The name is read up to the sign of equality. -/
theorem name?_assignment (value : String) (position : Nat) :
    ∃ position', Cursor.name? ⟨position, assignment name value⟩ =
      some (name.toList, ⟨position', '=' :: value.toList⟩) := by
  have htake : (assignment name value).takeWhile isNameChar = name.toList := by
    rw [assignment, List.takeWhile_append_of_pos hname.continues,
      List.takeWhile_cons_of_neg (by simp [isNameChar_equals]), List.append_nil]
  have hdrop : (assignment name value).dropWhile isNameChar = '=' :: value.toList := by
    rw [assignment, List.dropWhile_append_of_pos hname.continues,
      List.dropWhile_cons_of_neg (by simp [isNameChar_equals])]
  have hhead : (assignment name value).head?.any beginsName = true := by
    obtain ⟨c, rest, hlist, hc⟩ := hname.exists_cons
    rw [assignment, hlist]
    exact hc
  rw [Cursor.name?, if_pos hhead, Cursor.skip, htake, hdrop]
  exact ⟨_, rfl⟩

include hvalue

theorem isAssignmentChar_assignment : ∀ c ∈ assignment name value, isAssignmentChar c = true := by
  refine List.forall_mem_append.mpr ⟨fun c hc ↦ ?_, List.forall_mem_cons.mpr ⟨?_, fun c hc ↦ ?_⟩⟩
  · simp [isAssignmentChar, isPlainChar_of_isNameChar (hname.continues c hc)]
  · decide
  · simp [isAssignmentChar, hvalue c hc]

theorem not_blank_assignment : ∀ c ∈ assignment name value, isBlankChar c = false :=
  fun c hc ↦ (of_isAssignmentChar (isAssignmentChar_assignment hname hvalue c hc)).1

/-- What is left to read is the value. -/
theorem nameAndEquals_assignment (position : Nat) :
    ∃ position', nameAndEquals ⟨position, assignment name value⟩ =
      .ok (name.toList, ⟨position', value.toList⟩) := by
  obtain ⟨position', hname?⟩ := name?_assignment hname value position
  have hskip : Cursor.skip ⟨position', '=' :: value.toList⟩ isBlankChar =
      ⟨position', '=' :: value.toList⟩ := by
    apply skip_eq_self
    intro c hc
    exact not_blank_assignment hname hvalue c (List.mem_append_right _ hc)
  use position' + 1
  simp only [nameAndEquals, hname?, hskip]
  rfl

/-- An assignment sets its name to its value, whatever is set already. -/
theorem assigned?_assignment (environment : Environment) :
    assigned? environment (assignment name value) = .ok (some (name, value)) := by
  have hblank := not_blank_assignment hname hvalue
  have hstart : (Cursor.mk 0 (trimEnd (assignment name value))).skip isBlankChar =
      ⟨0, assignment name value⟩ := by
    rw [trimEnd_eq_self hblank]
    exact skip_eq_self hblank
  have hover : isOver (assignment name value) = false := by
    obtain ⟨c, rest, hlist, hc⟩ := hname.exists_cons
    have hcomment : c ≠ '#' := by
      rintro rfl
      cases hc
    rw [assignment, hlist]
    simp [isOver, hcomment]
  obtain ⟨position, hequals⟩ := nameAndEquals_assignment hname hvalue 0
  have hskip : Cursor.skip ⟨position, value.toList⟩ isBlankChar = ⟨position, value.toList⟩ := by
    apply skip_eq_self
    intro c hc
    exact hblank c (List.mem_append_right _ (List.mem_cons_of_mem _ hc))
  rw [assigned?]
  simp only [hstart, hover, hequals, hskip, value_eq_self hvalue, Bool.false_eq_true, if_false,
    String.ofList_toList]
  split
  case isFalse => rfl
  case isTrue hend =>
    -- a plain value begins no comment, so there is none
    have hnil : value.toList = [] := by
      cases hlist : value.toList with
      | nil => rfl
      | cons c rest =>
        have hmem : c ∈ assignment name value := by
          simp [assignment, hlist]
        have hcomment := (of_isAssignmentChar
          (isAssignmentChar_assignment hname hvalue c hmem)).2.2.1
        rw [hlist] at hend
        simp [isOver, hcomment] at hend
    rw [String.toList_eq_nil_iff.mp hnil]

end

/-! ## Names -/

/-- Only names are read as names. -/
theorem isName_of_name? {cursor next : Cursor} {name : List Char}
    (h : cursor.name? = some (name, next)) : IsName (String.ofList name) := by
  unfold Cursor.name? at h
  split at h
  case isFalse => cases h
  case isTrue hbegins =>
    cases h
    constructor
    · rw [String.toList_ofList]
      cases hrest : cursor.rest with
      | nil =>
        rw [hrest] at hbegins
        cases hbegins
      | cons c rest =>
        have hc : beginsName c = true := by
          rw [hrest] at hbegins
          exact hbegins
        rw [List.takeWhile_cons_of_pos (isNameChar_of_beginsName hc)]
        exact hc
    · rw [String.toList_ofList]
      exact fun c hc ↦ List.mem_takeWhile_imp hc

theorem isName_of_nameAndEquals {start next : Cursor} {name : List Char}
    (h : nameAndEquals start = .ok (name, next)) : IsName (String.ofList name) := by
  unfold nameAndEquals at h
  cases hfirst : start.name? with
  | none =>
    simp only [hfirst] at h
    cases h
  | some first =>
    simp only [hfirst, bind, Except.bind] at h
    split at h
    · cases h
      exact isName_of_name? hfirst
    · split at h
      · cases hsecond : (first.2.skip isBlankChar).name? with
        | none =>
          rw [hsecond] at h
          cases h
        | some second =>
          simp only [hsecond] at h
          split at h
          · cases h
            exact isName_of_name? hsecond
          · cases h
      · cases h

/-- Every variable that a line sets has a name. -/
theorem isName_of_assigned? {environment : Environment} {line : List Char} {name value : String}
    (h : assigned? environment line = .ok (some (name, value))) : IsName name := by
  unfold assigned? at h
  dsimp only at h
  split at h
  · cases h
  · split at h
    · cases h
    case h_2 hname =>
      split at h
      · cases h
        exact isName_of_nameAndEquals hname
      · split at h
        · cases h
          exact isName_of_nameAndEquals hname
        · cases h

/-- An assignment sets its variable just if that has a name. -/
theorem isName_iff {name value : String} (hvalue : IsPlain value) (environment : Environment) :
    IsName name ↔ assigned? environment (assignment name value) = .ok (some (name, value)) := by
  constructor
  · exact fun hname ↦ assigned?_assignment hname hvalue environment
  · exact isName_of_assigned?

/-! ## Lines -/

/-- A line without line feeds ends at the one that is put behind it. -/
theorem lineBytes_append {bytes : List UInt8} (h : 0x0a ∉ bytes) (rest : List UInt8) :
    lineBytes (bytes ++ 0x0a :: rest) = (bytes ++ [0x0a]) :: lineBytes rest := by
  induction bytes with
  | nil => rw [List.nil_append, lineBytes, if_pos rfl, List.nil_append]
  | cons b bytes ih =>
    obtain ⟨hhead, hrest⟩ := not_or.mp (mt List.mem_cons.mpr h)
    rw [List.cons_append, lineBytes, if_neg (Ne.symm hhead), ih hrest, List.cons_append]

/-- A line that leaves no value open is complete. -/
theorem after_complete {cs : List Char}
    (h : ∀ c ∈ cs, Standing.next .complete c = some .complete) :
    Standing.after .complete cs = .inl .complete := by
  induction cs with
  | nil => rfl
  | cons c cs ih =>
    obtain ⟨hc, hcs⟩ := List.forall_mem_cons.mp h
    rw [Standing.after]
    simp only [hc, ih hcs]

theorem withoutEnd_append {line : List Char} (h : '\r' ∉ line) :
    withoutEnd (line ++ ['\n']) = line := by
  cases hreverse : line.reverse with
  | nil =>
    rw [List.reverse_eq_nil_iff.mp hreverse]
    rfl
  | cons c rest =>
    have hc : c ≠ '\r' := by
      rintro rfl
      apply h
      rw [← List.mem_reverse, hreverse]
      exact List.mem_cons_self
    have hline : line = (c :: rest).reverse := by
      rw [← hreverse, List.reverse_reverse]
    rw [withoutEnd, List.reverse_append, hreverse, hline]
    simp [hc]

/-- A line of its own, in which nothing is opened, stands before the others. -/
theorem joinLines_cons {line : List Char} (hline : ∀ c ∈ line, isAssignmentChar c = true)
    (rest : List (Option (List Char))) :
    joinLines .complete [] (some (line ++ ['\n']) :: rest) =
      .ok line :: joinLines .complete [] rest := by
  have hafter : Standing.after .complete (line ++ ['\n']) = .inl .complete := by
    apply after_complete
    refine List.forall_mem_append.mpr ⟨fun c hc ↦ ?_, List.forall_mem_singleton.mpr (by decide)⟩
    exact (of_isAssignmentChar (hline c hc)).2.1
  have hcomment : (trimStart (line ++ ['\n'])).head? ≠ some '#' := by
    cases line with
    | nil => decide
    | cons c rest =>
      obtain ⟨hblank, -, hcomment, -⟩ := of_isAssignmentChar (hline c List.mem_cons_self)
      simp [trimStart, hblank, hcomment]
  have hreturn : '\r' ∉ line := by
    intro hmem
    have hchar := hline _ hmem
    revert hchar
    decide
  rw [joinLines]
  simp only [List.nil_append, hcomment, hafter, withoutEnd_append hreturn, if_false]

/-- The mark that a file of text may begin with. -/
def byteOrderMark : List UInt8 :=
  [0xef, 0xbb, 0xbf]

/-- The bytes of a file with a line before the others, but after a byte order mark. -/
def withLine (line : List Char) (bytes : List UInt8) : List UInt8 :=
  let added := Utf8.encode (line ++ ['\n'])
  match dropBeginning? byteOrderMark bytes with
  | some rest => byteOrderMark ++ (added ++ rest)
  | none => added ++ bytes

/-- The line in front is read as one of its own, and the others as before. -/
theorem lines_withLine {line : List Char} (hline : ∀ c ∈ line, isAssignmentChar c = true)
    (bytes : List UInt8) : lines (withLine line bytes) = .ok line :: lines bytes := by
  have hencode : Utf8.encode (line ++ ['\n']) =
      (line.map fun c ↦ UInt8.ofNat c.toNat) ++ [0x0a] := by
    rw [Utf8.encode_append,
      Utf8.encode_of_ascii fun c hc ↦ toNat_lt_of_isAssignmentChar (hline c hc)]
    rfl
  have hbytes : ∀ b ∈ line.map fun c ↦ UInt8.ofNat c.toNat, b ≠ 0x0a ∧ b ≠ 0xef :=
    List.forall_mem_map.mpr fun c hc ↦ (of_isAssignmentChar (hline c hc)).2.2.2
  have hadded (rest : List UInt8) : joinLines .complete []
      ((lineBytes (Utf8.encode (line ++ ['\n']) ++ rest)).map Utf8.decode?) =
        .ok line :: joinLines .complete [] ((lineBytes rest).map Utf8.decode?) := by
    have hend : (0x0a : UInt8) ∉ line.map fun c ↦ UInt8.ofNat c.toNat :=
      fun hmem ↦ (hbytes _ hmem).1 rfl
    have hsplit : lineBytes (Utf8.encode (line ++ ['\n']) ++ rest) =
        Utf8.encode (line ++ ['\n']) :: lineBytes rest := by
      rw [hencode, List.append_assoc, List.singleton_append, lineBytes_append hend]
    rw [hsplit, List.map_cons, Utf8.decode?_encode, joinLines_cons hline]
  have hmark : dropBeginning? byteOrderMark (Utf8.encode (line ++ ['\n']) ++ bytes) = none := by
    rw [hencode]
    cases line with
    | nil => rfl
    | cons c rest =>
      have hc : (0xef : UInt8) ≠ UInt8.ofNat c.toNat :=
        Ne.symm (hbytes _ List.mem_cons_self).2
      exact if_neg hc
  have hlines (bytes : List UInt8) : lines bytes = joinLines .complete []
      ((lineBytes ((dropBeginning? byteOrderMark bytes).getD bytes)).map Utf8.decode?) :=
    rfl
  rw [hlines, hlines, withLine]
  cases hdrop : dropBeginning? byteOrderMark bytes with
  | none =>
    simp only [hmark, Option.getD_none]
    exact hadded bytes
  | some rest =>
    simp only [dropBeginning?_append, Option.getD_some]
    exact hadded rest

/-! ## Files -/

/-- The bytes of the file of variables, none if there is no such file. -/
def contents (files : Files) : List UInt8 :=
  (files.nearest? fileName files.directory).getD []

theorem load_eq (files : Files) (environment : Environment) :
    load files environment = loadLines environment (lines (contents files)) := by
  unfold load contents
  cases files.nearest? fileName files.directory with
  | none | some bytes => rfl

/-- The files with one more variable set at the start of the working directory's file of variables,
which is made if it is not there. -/
def withAssignment (files : Files) (name value : String) : Files :=
  files.put fileName (withLine (assignment name value) ((files.own? fileName).getD []))

section

variable {environment : Environment} {name value : String} (hname : IsName name)
  (hvalue : IsPlain value) (hunset : environment.lookup name = none)

include hvalue hunset

theorem define_of_isPlain :
    define environment name value = .ok (environment ++ [(name, value)]) := by
  have hnull : value.toList.contains '\x00' = false := by
    rw [List.contains_eq_mem, decide_eq_false_iff_not]
    intro hmem
    have hplain := hvalue _ hmem
    revert hplain
    decide
  rw [define, hunset, hnull]
  rfl

include hname

/-- A variable that is set first in the working directory's own file is set before all others there,
and what is above the directory is not read. -/
theorem load_withAssignment (files : Files) : load (withAssignment files name value) environment =
    loadLines (environment ++ [(name, value)]) (lines ((files.own? fileName).getD [])) := by
  have hcontents : contents (withAssignment files name value) =
      withLine (assignment name value) ((files.own? fileName).getD []) := by
    rw [contents, withAssignment, Files.nearest?_of_own? (Files.own?_put _ _ _), Option.getD_some]
  rw [load_eq, hcontents, lines_withLine (isAssignmentChar_assignment hname hvalue), loadLines]
  simp only [assigned?_assignment hname hvalue, define_of_isPlain hvalue hunset]

/-- The entry is read like a variable that is set from the first, if it hides no file. -/
theorem agree_load_withAssignment {files : Files} (hlocal : files.IsLocal fileName) :
    Agree (load (withAssignment files name value) environment).1
        (load files ((name, value) :: environment)).1 ∧
      (load (withAssignment files name value) environment).2 =
        (load files ((name, value) :: environment)).2 := by
  have hagree : Agree (environment ++ [(name, value)]) ((name, value) :: environment) := by
    intro key
    rw [List.lookup_append, List.lookup_cons, List.lookup_cons]
    by_cases heq : key = name
    · rw [heq, hunset, beq_self_eq_true, Option.none_or]
    · rw [beq_false_of_ne heq, List.lookup_nil, Option.or_none]
  have hcontents : contents files = (files.own? fileName).getD [] := by
    rw [contents, hlocal]
  rw [load_withAssignment hname hvalue hunset, load_eq, hcontents]
  exact hagree.loadLines _

/-- An entry that hides a file is alone, and never refused. -/
theorem load_withAssignment_snd {files : Files} (hhides : ¬files.IsLocal fileName) :
    (load (withAssignment files name value) environment).2 = .ok () := by
  have hown : files.own? fileName = none := by
    by_contra hsome
    obtain ⟨bytes, hbytes⟩ := Option.ne_none_iff_exists'.mp hsome
    exact hhides ((Files.nearest?_of_own? hbytes).trans hbytes.symm)
  rw [load_withAssignment hname hvalue hunset, hown, Option.getD_none]
  rfl

end

end ApiReference.Settings.Dotenv
