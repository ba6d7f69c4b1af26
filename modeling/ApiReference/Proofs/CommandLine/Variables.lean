import ApiReference.Proofs.CommandLine.Precedence
import ApiReference.Proofs.Settings.Assignments

/-!
# Variables of the Process and of a File

A variable that is set in the file of variables is read like a variable of the process, but later:
by then the threads are started and the arguments have been read.  So it makes no difference to a
run where a variable is set, unless it is one of those that are read before, or the entry is the
first in the working directory and hides a refused file above it.
-/

namespace ApiReference.CommandLine

open Decode Settings

/-! ## Runs -/

/-- Runs that end with the same exit code and print the same configuration. -/
def Outcome.Agree (one two : Outcome) : Prop :=
  one.exitCode? = two.exitCode? ∧ one.configuration? = two.configuration?

theorem Outcome.Agree.refl (outcome : Outcome) : outcome.Agree outcome :=
  ⟨rfl, rfl⟩

theorem Outcome.Agree.symm {one two : Outcome} (h : one.Agree two) : two.Agree one :=
  ⟨h.1.symm, h.2.symm⟩

namespace Machine

def withVariable (machine : Machine) (name value : String) : Machine :=
  { machine with environment := (name, value) :: machine.environment }

/-- The machine with one more variable at the start of the working directory's file of variables. -/
def withEntry (machine : Machine) (name value : String) : Machine :=
  { machine with files := Dotenv.withAssignment machine.files name value }

/-- How the program ends before it comes to its arguments, if it does. -/
def early? (machine : Machine) (arguments : List String) : Option Outcome :=
  match machine.stops? machine.environment arguments with
  | some code => some (.stopped code)
  | none =>
    match threads machine.environment with
    | .error message => some (.crashed message)
    | .ok _ => none

@[simp] theorem stops?_withVariable (machine : Machine) (name value : String) :
    (machine.withVariable name value).stops? = machine.stops? :=
  rfl

@[simp] theorem early?_withEntry (machine : Machine) (name value : String)
    (arguments : List String) :
    (machine.withEntry name value).early? arguments = machine.early? arguments :=
  rfl

theorem run_eq (machine : Machine) (arguments : List String) : machine.run arguments =
    (machine.early? arguments).getD (runArguments machine.toSurroundings arguments) := by
  unfold run early? CommandLine.run
  cases machine.stops? machine.environment arguments with
  | some code => rfl
  | none =>
    cases threads machine.environment with
    | error _ | ok _ => rfl

end Machine

/-! ## Files of settings -/

theorem toOption_mapError {ε δ α : Type} (result : Except ε α) (f : ε → δ) :
    (result.mapError f).toOption = result.toOption := by
  cases result <;> rfl

/-- A path without an extension is never loaded. -/
theorem toOption_withFile {path : String} (h : Files.extension? path = none) (files : Files) :
    (Loader.withFile {} files path).toOption = none := by
  unfold Loader.withFile
  split
  · rfl
  · rfl
  · split
    · rfl
    · rw [h]
      rfl

section

variable {files : Files} (hroom : files.HasRoom Dotenv.fileName) (name value : String)

include hroom

/-- The file of variables is no file of settings, so no path leads to other settings when it
changes. -/
theorem toOption_withFile_withAssignment (path : String) :
    (Loader.withFile {} (Dotenv.withAssignment files name value) path).toOption =
      (Loader.withFile {} files path).toOption := by
  by_cases hpath : (Files.steps path).getLast? = some Dotenv.fileName
  · have hpoint : Dotenv.fileName.toList = '.' :: ['e', 'n', 'v'] := by
      decide
    have hextension : Files.extension? path = none :=
      Files.extension?_eq_none hpoint (by decide) (by decide) hpath
    rw [toOption_withFile hextension, toOption_withFile hextension]
  · have hfind : (Dotenv.withAssignment files name value).find? path = files.find? path :=
      Files.find?_put hroom hpath
    rw [Loader.withFile, Loader.withFile, hfind]

/-- An entry of the file of variables changes no file of settings. -/
theorem toOption_loader_withAssignment (options : Options) :
    (options.loader (Dotenv.withAssignment files name value)).toOption =
      (options.loader files).toOption := by
  unfold Options.loader
  cases options.config with
  | some path =>
    rw [toOption_mapError, toOption_mapError]
    exact toOption_withFile_withAssignment hroom name value path
  | none =>
    have hpath : (Files.steps Options.defaultFile).getLast? ≠ some Dotenv.fileName := by
      decide +kernel
    have hfind : (Dotenv.withAssignment files name value).find? Options.defaultFile =
        files.find? Options.defaultFile :=
      Files.find?_put hroom hpath
    rw [toOption_mapError, toOption_mapError, Loader.withOptionalFile, Loader.withOptionalFile,
      hfind]
    split
    · exact toOption_withFile_withAssignment hroom name value _
    · rfl

end

/-! ## Settings and options -/

/-- Settings are in effect if the file of variables and that of settings are accepted, and the
options leave them valid. -/
theorem toOption_settings (options : Options) (files : Files) (environment : Environment) :
    (options.settings files environment).toOption =
      (Dotenv.load files environment).2.toOption.bind fun _ ↦
        (options.loader files).toOption.bind fun loader ↦
          (options.applyTo loader.settings).validate.toOption.map fun _ ↦
            options.applyTo loader.settings := by
  unfold Options.settings Loader.dotenv
  cases hload : Dotenv.load files environment with
  | mk loaded result =>
    cases result with
    | error failure => rfl
    | ok _ =>
      cases hloader : options.loader files with
      | error report => rfl
      | ok loader =>
        cases hvalid : (options.applyTo loader.settings).validate with
        | error _ | ok _ =>
          simp only [Except.mapError, bind, Except.bind, Except.toOption, Option.bind_some, hvalid]
          rfl

section

variable {one two : Surroundings} {options : Options}

/-- Runs agree with options if their files of variables and of settings do. -/
theorem agree_runOptions (hbinding : one.binding = two.binding)
    (hload : (Dotenv.load one.files one.environment).2 =
      (Dotenv.load two.files two.environment).2)
    (hloader : (options.loader one.files).toOption = (options.loader two.files).toOption) :
    (runOptions one options).Agree (runOptions two options) := by
  have hsettings : (options.settings one.files one.environment).toOption =
      (options.settings two.files two.environment).toOption := by
    rw [toOption_settings, toOption_settings, hload, hloader]
  unfold runOptions
  dsimp only
  rw [hload, hbinding]
  cases Dotenv.crash? (Dotenv.load two.files two.environment).2 with
  | some message => exact .refl _
  | none =>
    cases hone : options.settings one.files one.environment with
    | error report =>
      cases htwo : options.settings two.files two.environment with
      | error other => exact ⟨rfl, rfl⟩
      | ok settings =>
        rw [hone, htwo] at hsettings
        cases hsettings
    | ok settings =>
      cases htwo : options.settings two.files two.environment with
      | error report =>
        rw [hone, htwo] at hsettings
        cases hsettings
      | ok other =>
        rw [hone, htwo] at hsettings
        cases hsettings
        exact .refl _

/-- A refused file of variables ends the run. -/
theorem runOptions_of_refused {failure : Dotenv.Failure}
    (h : (Dotenv.load one.files one.environment).2 = .error failure) (options : Options) :
    (runOptions one options).exitCode? ∈ [some 1, some 101] ∧
      (runOptions one options).configuration? = none := by
  have hsettings : (options.settings one.files one.environment).toOption = none := by
    rw [toOption_settings, h]
    rfl
  unfold runOptions
  dsimp only
  cases Dotenv.crash? (Dotenv.load one.files one.environment).2 with
  | some message => exact ⟨by simp [Outcome.exitCode?], rfl⟩
  | none =>
    cases hone : options.settings one.files one.environment with
    | error report => exact ⟨by simp [Outcome.exitCode?], rfl⟩
    | ok settings =>
      rw [hone] at hsettings
      cases hsettings

end

/-! ## Arguments -/

/-- Arguments that end a run do so with an exit code of their own, and print no configuration. -/
theorem agree_runArguments_of_error {one two : Surroundings} {arguments : List String} {stop : Stop}
    (hone : Options.ofArguments arguments one.environment = .error stop)
    (htwo : Options.ofArguments arguments two.environment = .error stop) :
    (runArguments one arguments).Agree (runArguments two arguments) := by
  unfold runArguments
  rw [hone, htwo]
  cases stop with
  | help | version | misuse _ =>
    exact ⟨by simp only [Outcome.exitCode?], by simp only [Outcome.configuration?]⟩

theorem runArguments_of_ok {surroundings : Surroundings} {arguments : List String}
    {options : Options} (h : Options.ofArguments arguments surroundings.environment = .ok options) :
    runArguments surroundings arguments = runOptions surroundings options := by
  rw [runArguments, h]

/-- Of the variables, the arguments depend on one alone. -/
theorem ofArguments_congr {environment other : Environment}
    (h : environment.lookup Options.configVariable = other.lookup Options.configVariable)
    (arguments : List String) :
    Options.ofArguments arguments environment = Options.ofArguments arguments other := by
  simp only [Options.ofArguments, h]

/-- What the program does with options when a variable names the file of settings.  Options that
name one themselves prevail. -/
def runNaming (surroundings : Surroundings) (options : Options) (value : String) : Outcome :=
  if options.config.isSome then runOptions surroundings options
  else if value = "" then .misused (.missingValue .config)
  else runOptions surroundings { options with config := some value }

section

variable {arguments : List String} {environment : Environment}
  (hunset : environment.lookup Options.configVariable = none)

include hunset

/-- The variable names the file of settings where no option does. -/
theorem ofArguments_cons_of_ok {options : Options}
    (hoptions : Options.ofArguments arguments environment = .ok options) (value : String) :
    Options.ofArguments arguments ((Options.configVariable, value) :: environment) =
      if options.config.isSome then .ok options
      else if value = "" then .error (.misuse (.missingValue .config))
      else .ok { options with config := some value } := by
  obtain ⟨reading, hreading, hoptions⟩ := exists_of_bind_eq_ok hoptions
  obtain ⟨⟨⟩, hrequired, hoptions⟩ := exists_of_bind_eq_ok hoptions
  have hread : reading.options = options := by
    rw [hunset] at hoptions
    cases hconfig : reading.options.config with
    | none | some _ =>
      rw [hconfig] at hoptions
      exact Except.ok.inj hoptions
  subst hread
  simp only [Options.ofArguments, hreading, hrequired, List.lookup_cons_self, bind, Except.bind]
  cases hconfig : reading.options.config with
  | some path => rfl
  | none =>
    by_cases hempty : value = ""
    · simp [Options.put, Options.has, Options.assign, hconfig, hempty, Except.mapError]
    · simp [Options.put, Options.has, Options.assign, hconfig, hempty, Except.mapError]

/-- Arguments that end a run do so whatever the variable is. -/
theorem ofArguments_cons_of_error {stop : Stop}
    (hstop : Options.ofArguments arguments environment = .error stop) (value : String) :
    Options.ofArguments arguments ((Options.configVariable, value) :: environment) =
      .error stop := by
  unfold Options.ofArguments at hstop ⊢
  cases hreading : arguments.foldlM Reading.next {} with
  | error other =>
    rw [hreading] at hstop
    exact hstop
  | ok reading =>
    cases hrequired : reading.requireValue with
    | error other =>
      simp only [hreading, hrequired, bind, Except.bind] at hstop ⊢
      exact hstop
    | ok _ =>
      -- without the variable nothing is left that could fail
      simp only [hreading, hrequired, hunset, bind, Except.bind] at hstop
      cases hconfig : reading.options.config with
      | none | some _ =>
        rw [hconfig] at hstop
        cases hstop

end

theorem runArguments_withVariable {machine : Machine} {arguments : List String}
    (hunset : machine.environment.lookup Options.configVariable = none) {options : Options}
    (hoptions : Options.ofArguments arguments machine.environment = .ok options)
    (value : String) :
    runArguments (machine.withVariable Options.configVariable value).toSurroundings arguments =
      runNaming (machine.withVariable Options.configVariable value).toSurroundings options
        value := by
  have harguments : Options.ofArguments arguments
      (machine.withVariable Options.configVariable value).environment =
        if options.config.isSome then .ok options
        else if value = "" then .error (.misuse (.missingValue .config))
        else .ok { options with config := some value } :=
    ofArguments_cons_of_ok hunset hoptions value
  unfold runArguments runNaming
  rw [harguments]
  split_ifs <;> rfl

/-! ## Before the arguments -/

section

variable {machine : Machine} {name value : String}

/-- Nothing goes otherwise with a variable before the arguments are read: the system takes it as it
takes its absence, and it is no malformed number of threads. -/
def StartsAlike (machine : Machine) (arguments : List String) (name value : String) : Prop :=
  machine.stops? ((name, value) :: machine.environment) arguments =
    machine.stops? machine.environment arguments ∧
  (name = threadVariable → ∃ count, parseNumber value = .ok count ∧ count ≠ 0)

theorem threads_cons_self (environment : Environment) {value : String} {count : Nat}
    (hvalue : parseNumber value = .ok count) (hcount : count ≠ 0) :
    threads ((threadVariable, value) :: environment) = .ok (some count) := by
  rw [threads, List.lookup_cons_self]
  cases count with
  | zero => exact absurd rfl hcount
  | succ _ => simp only [hvalue]

/-- What is no positive number ends the run before the arguments. -/
theorem threads_cons_of_misnumbered (environment : Environment) {value : String}
    (h : ∀ count, parseNumber value = .ok count → count = 0) :
    ∃ message, threads ((threadVariable, value) :: environment) = .error message := by
  cases hvalue : parseNumber value with
  | error reason =>
    simp only [threads, List.lookup_cons_self, hvalue, Except.error.injEq, exists_eq']
  | ok count =>
    rw [h count hvalue] at hvalue
    simp only [threads, List.lookup_cons_self, hvalue, Except.error.injEq, exists_eq']

theorem threads_cons_of_ne (environment : Environment) {name : String} (h : name ≠ threadVariable)
    (value : String) : threads ((name, value) :: environment) = threads environment := by
  rw [threads, threads, List.lookup_cons, beq_false_of_ne (Ne.symm h)]

/-- A variable that is taken as its absence ends no run early. -/
theorem early?_withVariable {arguments : List String}
    (hunset : machine.environment.lookup name = none)
    (halike : StartsAlike machine arguments name value) :
    (machine.withVariable name value).early? arguments = machine.early? arguments := by
  unfold Machine.early? Machine.withVariable
  dsimp only
  rw [halike.1]
  by_cases hname : name = threadVariable
  · obtain ⟨count, hvalue, hcount⟩ := halike.2 hname
    have hthreads : threads machine.environment = .ok none := by
      rw [threads, ← hname, hunset]
    rw [hname, threads_cons_self _ hvalue hcount, hthreads]
  · rw [threads_cons_of_ne _ hname]

theorem run_of_early?_eq_none {arguments : List String} (h : machine.early? arguments = none) :
    machine.run arguments = runArguments machine.toSurroundings arguments := by
  rw [Machine.run_eq, h, Option.getD_none]

theorem run_of_stops {arguments : List String} {code : Nat}
    (h : machine.stops? machine.environment arguments = some code) :
    machine.run arguments = .stopped code := by
  rw [Machine.run, h]

theorem run_of_misnumbered {arguments : List String} {message : String}
    (hstops : machine.stops? machine.environment arguments = none)
    (h : threads machine.environment = .error message) :
    machine.run arguments = .crashed message := by
  rw [Machine.run, hstops]
  dsimp only
  rw [CommandLine.run, h]

/-! ## Where a variable is set -/

/-- An entry comes too late to end the program before its arguments. -/
theorem run_withEntry_of_early?_eq_none {arguments : List String}
    (h : machine.early? arguments = none) : (machine.withEntry name value).run arguments =
      runArguments (machine.withEntry name value).toSurroundings arguments :=
  run_of_early?_eq_none ((machine.early?_withEntry name value arguments).trans h)

/-- With the entry, the options are those without the variable. -/
theorem run_withEntry_of_ok {arguments : List String} {options : Options}
    (hearly : machine.early? arguments = none)
    (hoptions : Options.ofArguments arguments machine.environment = .ok options) :
    (machine.withEntry name value).run arguments =
      runOptions (machine.withEntry name value).toSurroundings options := by
  have hentry : Options.ofArguments arguments (machine.withEntry name value).environment =
      .ok options := hoptions
  rw [run_withEntry_of_early?_eq_none hearly, runArguments_of_ok hentry]

theorem lookup_config_withVariable (machine : Machine) (h : name ≠ Options.configVariable)
    (value : String) :
    (machine.withVariable name value).environment.lookup Options.configVariable =
      machine.environment.lookup Options.configVariable := by
  rw [Machine.withVariable, List.lookup_cons, beq_false_of_ne (Ne.symm h)]

/-- An entry hides no file above the working directory, or one that is accepted. -/
def HidesNoRefused (machine : Machine) (name value : String) : Prop :=
  machine.files.IsLocal Dotenv.fileName ∨
    (Dotenv.load machine.files (machine.withVariable name value).environment).2 = .ok ()

section

variable (hname : Dotenv.IsName name) (hvalue : Dotenv.IsPlain value)
  (hunset : machine.environment.lookup name = none)
  (hroom : machine.files.HasRoom Dotenv.fileName) (hhides : HidesNoRefused machine name value)

include hname hvalue hunset hroom hhides

/-- The entry is read in time for everything that is done with options. -/
theorem agree_runOptions_withEntry (options : Options) :
    (runOptions (machine.withVariable name value).toSurroundings options).Agree
      (runOptions (machine.withEntry name value).toSurroundings options) := by
  refine agree_runOptions rfl ?_ (toOption_loader_withAssignment hroom name value options).symm
  by_cases hlocal : machine.files.IsLocal Dotenv.fileName
  · exact (Dotenv.agree_load_withAssignment hname hvalue hunset hlocal).2.symm
  · exact (hhides.resolve_left hlocal).trans
      (Dotenv.load_withAssignment_snd hname hvalue hunset hlocal).symm

/-- A run is the same wherever a variable is set, if it is not the one that names the file of
settings. -/
theorem agree_run_withEntry {arguments : List String} (hne : name ≠ Options.configVariable)
    (halike : StartsAlike machine arguments name value) :
    ((machine.withVariable name value).run arguments).Agree
      ((machine.withEntry name value).run arguments) := by
  have hearly := early?_withVariable hunset halike
  cases hmachine : machine.early? arguments with
  | some outcome =>
    rw [Machine.run_eq, Machine.run_eq, hearly, Machine.early?_withEntry, hmachine,
      Option.getD_some, Option.getD_some]
    exact .refl _
  | none =>
    have harguments := ofArguments_congr (lookup_config_withVariable machine hne value)
      arguments
    rw [run_of_early?_eq_none (hearly.trans hmachine)]
    cases hread : Options.ofArguments arguments machine.environment with
    | error stop =>
      rw [run_withEntry_of_early?_eq_none hmachine]
      exact agree_runArguments_of_error (harguments.trans hread) hread
    | ok options =>
      rw [runArguments_of_ok (harguments.trans hread), run_withEntry_of_ok hmachine hread]
      exact agree_runOptions_withEntry hname hvalue hunset hroom hhides options

end

/-- The variable of the process is an option that the arguments may leave out. -/
theorem run_withVariable_config {arguments : List String}
    (hunset : machine.environment.lookup Options.configVariable = none)
    (halike : StartsAlike machine arguments Options.configVariable value)
    (hearly : machine.early? arguments = none) :
    (∀ options, Options.ofArguments arguments machine.environment = .ok options →
      (machine.withVariable Options.configVariable value).run arguments =
        runNaming (machine.withVariable Options.configVariable value).toSurroundings options
          value) ∧
    ∀ stop, Options.ofArguments arguments machine.environment = .error stop →
      ((machine.withVariable Options.configVariable value).run arguments).Agree
        ((machine.withEntry Options.configVariable value).run arguments) := by
  rw [run_of_early?_eq_none ((early?_withVariable hunset halike).trans hearly)]
  refine ⟨fun options hoptions ↦ runArguments_withVariable hunset hoptions value,
    fun stop hstop ↦ ?_⟩
  rw [run_withEntry_of_early?_eq_none hearly]
  exact agree_runArguments_of_error (ofArguments_cons_of_error hunset hstop value) hstop

end

/-- What it means for a run that a variable is set by an entry of the file of variables, in place of
the process. -/
structure EntryActs (machine : Machine) (arguments : List String) (name value : String) :
    Prop where
  /-- The same variables are loaded, unless the entry hides a file above the working directory. -/
  loaded : machine.files.IsLocal Dotenv.fileName →
    Dotenv.Agree
      (loadedVariables (machine.withEntry name value).files machine.environment)
      (loadedVariables machine.files (machine.withVariable name value).environment)
  /-- No run differs by a variable that is not read before the file of variables is, unless the
  entry hides a refused file. -/
  agree : name ≠ Options.configVariable → StartsAlike machine arguments name value →
    HidesNoRefused machine name value →
    ((machine.withVariable name value).run arguments).Agree
      ((machine.withEntry name value).run arguments)
  /-- With the entry the arguments are read as without the variable, and what is done with the
  options is done with it. -/
  entry : machine.early? arguments = none → HidesNoRefused machine name value →
    ∀ options, Options.ofArguments arguments machine.environment = .ok options →
      ((machine.withEntry name value).run arguments).Agree
        (runOptions (machine.withVariable name value).toSurroundings options)
  /-- The variable of the process that names the file of settings is read with the arguments. -/
  naming : name = Options.configVariable → StartsAlike machine arguments name value →
    machine.early? arguments = none →
    (∀ options, Options.ofArguments arguments machine.environment = .ok options →
      (machine.withVariable name value).run arguments =
        runNaming (machine.withVariable name value).toSurroundings options value) ∧
    ∀ stop, Options.ofArguments arguments machine.environment = .error stop →
      ((machine.withVariable name value).run arguments).Agree
        ((machine.withEntry name value).run arguments)
  /-- What the system does not take ends the run only if it is a variable of the process. -/
  stopped : ∀ code,
    machine.stops? (machine.withVariable name value).environment arguments = some code →
    ((machine.withVariable name value).run arguments).exitCode? = some code ∧
      ((machine.withVariable name value).run arguments).configuration? = none ∧
      (machine.withEntry name value).early? arguments = machine.early? arguments
  /-- A malformed number of threads ends the run only if it is a variable of the process. -/
  misnumbered : name = threadVariable → (∀ count, parseNumber value = .ok count → count = 0) →
    machine.stops? (machine.withVariable name value).environment arguments = none →
    ((machine.withVariable name value).run arguments).exitCode? = some 101 ∧
      ((machine.withVariable name value).run arguments).configuration? = none ∧
      (machine.withEntry name value).early? arguments = machine.early? arguments
  /-- A refused file above the working directory ends the run only if no entry hides it. -/
  hidden : ¬machine.files.IsLocal Dotenv.fileName →
    (Dotenv.load (machine.withEntry name value).files machine.environment).2 = .ok () ∧
    ∀ failure options,
      (Dotenv.load machine.files (machine.withVariable name value).environment).2 =
        .error failure →
      (machine.withVariable name value).early? arguments = none →
      Options.ofArguments arguments (machine.withVariable name value).environment = .ok options →
      ((machine.withVariable name value).run arguments).exitCode? ∈ [some 1, some 101] ∧
        ((machine.withVariable name value).run arguments).configuration? = none

/-- Setting a variable in the file of variables is like setting it for the process, but comes too
late for what is read before: the number of threads, and the name of the file of settings. -/
theorem entry_acts_like_variable (machine : Machine) (arguments : List String)
    {name value : String} (hname : Dotenv.IsName name) (hvalue : Dotenv.IsPlain value)
    (hunset : machine.environment.lookup name = none)
    (hroom : machine.files.HasRoom Dotenv.fileName) : EntryActs machine arguments name value where
  loaded hlocal := (Dotenv.agree_load_withAssignment hname hvalue hunset hlocal).1
  agree hne halike hhides := agree_run_withEntry hname hvalue hunset hroom hhides hne halike
  entry hearly hhides options hoptions := by
    rw [run_withEntry_of_ok hearly hoptions]
    exact (agree_runOptions_withEntry hname hvalue hunset hroom hhides options).symm
  naming := by
    rintro rfl halike hearly
    exact run_withVariable_config hunset halike hearly
  stopped code hcode := by
    have hrun : (machine.withVariable name value).run arguments = .stopped code :=
      run_of_stops hcode
    rw [hrun]
    exact ⟨rfl, rfl, rfl⟩
  misnumbered := by
    rintro rfl hcount hstops
    obtain ⟨message, hmessage⟩ := threads_cons_of_misnumbered machine.environment hcount
    have hrun : (machine.withVariable threadVariable value).run arguments = .crashed message :=
      run_of_misnumbered hstops hmessage
    rw [hrun]
    exact ⟨rfl, rfl, rfl⟩
  hidden hhides := by
    refine ⟨Dotenv.load_withAssignment_snd hname hvalue hunset hhides, ?_⟩
    intro failure options hrefused hearly hoptions
    rw [run_of_early?_eq_none hearly, runArguments_of_ok hoptions]
    exact runOptions_of_refused hrefused options

/-- A machine without files and variables, which takes every variable and on which every address can
be listened to. -/
def bare : Machine where
  files := {}
  environment := []
  binding _ := .bound
  stops? _ _ := none

theorem config_entry_changes_nothing :
    ((Dotenv.IsName Options.configVariable ∧ Dotenv.IsPlain "missing.toml") ∧
      Dotenv.IsName threadVariable ∧ Dotenv.IsPlain "4") ∧
    ((bare.environment.lookup Options.configVariable = none ∧
      bare.environment.lookup threadVariable = none) ∧ bare.files.HasRoom Dotenv.fileName) ∧
    ((bare.withEntry Options.configVariable "missing.toml").run ["--print-config"]).Agree
      (runOptions (bare.withVariable Options.configVariable "missing.toml").toSurroundings
        { showSettings := true }) ∧
    ((bare.withVariable threadVariable "4").run ["--print-config"]).Agree
      ((bare.withEntry threadVariable "4").run ["--print-config"]) := by
  have hconfig : Dotenv.IsName Options.configVariable :=
    ⟨by decide, List.all_iff_forall_prop.mp (by decide)⟩
  have hmissing : Dotenv.IsPlain "missing.toml" := List.all_iff_forall_prop.mp (by decide)
  have hthreads : Dotenv.IsName threadVariable :=
    ⟨by decide, List.all_iff_forall_prop.mp (by decide)⟩
  have hfour : Dotenv.IsPlain "4" := List.all_iff_forall_prop.mp (by decide)
  have hroom : bare.files.HasRoom Dotenv.fileName := by
    unfold Files.HasRoom
    decide
  have hnaming := entry_acts_like_variable bare ["--print-config"] hconfig hmissing rfl hroom
  have hnumbered := entry_acts_like_variable bare ["--print-config"] hthreads hfour rfl hroom
  refine ⟨⟨⟨hconfig, hmissing⟩, hthreads, hfour⟩, ⟨⟨rfl, rfl⟩, hroom⟩,
    hnaming.entry rfl (.inl rfl) { showSettings := true } rfl, ?_⟩
  exact hnumbered.agree (by decide) ⟨rfl, fun _ ↦ ⟨4, rfl, by decide⟩⟩ (.inl rfl)

/-- A file of settings that is named and not there ends the run, unless it is the file of variables
that names it. -/
theorem config_entry_passed_over :
    ¬((bare.withVariable Options.configVariable "missing.toml").run ["--print-config"]).Agree
      ((bare.withEntry Options.configVariable "missing.toml").run ["--print-config"]) := by
  have hvariable :
      ((bare.withVariable Options.configVariable "missing.toml").run
        ["--print-config"]).exitCode? = some 1 := by
    decide +kernel
  have hentry :
      ((bare.withEntry Options.configVariable "missing.toml").run
        ["--print-config"]).exitCode? = some 0 := by
    decide +kernel
  rintro ⟨hcode, -⟩
  rw [hvariable, hentry] at hcode
  cases hcode

end ApiReference.CommandLine
