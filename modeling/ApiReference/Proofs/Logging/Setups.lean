import ApiReference.Logging.Log
import ApiReference.Proofs.Catalog.Insertions
import ApiReference.Proofs.Logging.Directives

/-!
# Set-ups of the Log

A process may call for set-ups of its log again and again, with events between the calls.  The first
call that is switched on, names a service and has a readable filter installs its collector, and from
then on its filter alone decides which events are kept.  Every other call leaves the log as it was,
and is answered by what is wrong with it first.  A filter that is cut inside a character is no
refusal: such a call breaks off without an answer.
-/

namespace ApiReference.Logging

open Text

/-! ## A set-up step by step -/

/-- Steps on the log of a process.  What a step did to the log stays when a later one fails. -/
abbrev Steps := ExceptT Error (StateM Log)

namespace Steps

def readFilter (level : String) : Steps Filter :=
  match Filter.parse level with
  | .ok filter => return filter
  | .error error => throw (.filter error)

/-- Makes a collector the one of the process, unless there is one. -/
def install (collector : Collector) : Steps Unit := do
  if (← get).collector.isSome then throw .alreadySetUp
  modify fun log ↦ { log with collector := some collector }

def emit (event : Event) : Steps Unit :=
  modify fun log ↦ log.record event

/-- Checks a configuration, installs its collector and says so. -/
def setUp (config : Config) : Steps Unit := do
  if !config.enabled then return
  if isBlank config.service then throw .blankService
  let filter ← readFilter config.level
  install ⟨filter, config⟩
  emit (.started config.service)

/-- The steps come to the log of an accepted set-up, and to the log as it was if one is refused. -/
theorem run_setUp (config : Config) (log : Log) : (setUp config).run.run log =
    ((log.setUp config).map fun _ ↦ (), (log.setUp config).toOption.getD log) := by
  unfold setUp readFilter Log.setUp
  cases config.enabled with
  | false => rfl
  | true =>
    cases isBlank config.service with
    | true => rfl
    | false =>
      cases Filter.parse config.level with
      | error error => rfl
      | ok filter =>
        obtain ⟨collector, events⟩ := log
        cases collector with
        | none => rfl
        | some collector => rfl

end Steps

/-! ## Calls and events -/

/-- The sorts of refusals that a caller can tell apart. -/
inductive ErrorKind where
  | invalidConfig
  | loggingInit
  deriving Repr, DecidableEq

/-- What comes of a call: it is accepted, it is refused, or it breaks off. -/
inductive Reply where
  | done
  | refused (kind : ErrorKind)
  | brokenOff
  deriving Repr, DecidableEq

/-- How a caller sees an error.  A cut inside a character is none that it could see. -/
def Error.reply : Error → Reply
  | .blankService => .refused .invalidConfig
  | .filter .splitCharacter => .brokenOff
  | .filter _ | .alreadySetUp => .refused .loggingInit

/-- What comes of a call with a result. -/
def Reply.of : Except Error Unit → Reply
  | .ok () => .done
  | .error error => error.reply

/-- The words that the messages of a sort begin with. -/
def ErrorKind.opening : ErrorKind → String
  | .invalidConfig => "Invalid configuration: "
  | .loggingInit => "Failed to initialize logging: "

/-- The message of a refusal begins with the words of its sort. -/
theorem Error.exists_message_eq {error : Error} {kind : ErrorKind}
    (h : error.reply = .refused kind) : ∃ detail, error.message = kind.opening ++ detail := by
  have hfilter (reason : DirectiveError) : ∃ detail,
      (Error.filter reason).message = ErrorKind.loggingInit.opening ++ detail := by
    use "Invalid log level: " ++ reason.message
    rw [← String.append_assoc]
    exact congrArg (· ++ reason.message) rfl
  cases error with
  | blankService =>
    cases h
    exact ⟨"service name must not be empty", rfl⟩
  | alreadySetUp =>
    cases h
    exact ⟨"a global default trace dispatcher has already been set", rfl⟩
  | filter reason =>
    cases reason with
    | splitCharacter => cases h
    | malformed | unknownLevel | field =>
      cases h
      exact hfilter _

/-- Something that happens to the log of a process. -/
inductive Happening where
  | setUp (config : Config)
  | event (event : Event)

/-- What a call comes to, and the log after it. -/
def Log.call (log : Log) (config : Config) : Except Error Unit × Log :=
  (Steps.setUp config).run.run log

def Log.next (log : Log) : Happening → Log
  | .setUp config => (log.call config).2
  | .event event => log.record event

/-- The log of a process after all that happened to it. -/
def Log.after (happenings : List Happening) : Log :=
  happenings.foldl next {}

/-- What comes of a call after some happenings. -/
def reply (before : List Happening) (config : Config) : Reply :=
  .of ((Log.after before).call config).1

def setUps (happenings : List Happening) : List Config :=
  happenings.filterMap fun
    | .setUp config => some config
    | .event _ => none

def eventsOf (happenings : List Happening) : List Event :=
  happenings.filterMap fun
    | .setUp _ => none
    | .event event => some event

/-! ## What is promised -/

/-- A configuration that can be installed, with the filter that it describes. -/
structure Config.Usable (config : Config) (filter : Filter) : Prop where
  enabled : config.enabled = true
  named : trim config.service.toList ≠ []
  readable : Filter.parse config.level = .ok filter

/-- A configuration whose filter is cut inside a character before anything else is wrong with it. -/
structure Config.BreaksOff (config : Config) : Prop where
  enabled : config.enabled = true
  named : trim config.service.toList ≠ []
  cut : Filter.parse config.level = .error .splitCharacter

/-- Happenings without a call that could install a collector. -/
def Untouched (happenings : List Happening) : Prop :=
  ∀ config ∈ setUps happenings, ∀ filter, ¬ config.Usable filter

/-- How a call is promised to be answered. -/
inductive Promised (before : List Happening) (config : Config) : Reply → Prop
  | disabled (henabled : config.enabled = false) : Promised before config .done
  | blank (henabled : config.enabled = true) (hblank : trim config.service.toList = []) :
    Promised before config (.refused .invalidConfig)
  | unreadable (henabled : config.enabled = true) (hnamed : trim config.service.toList ≠ [])
    (hunreadable : ∀ filter, Filter.parse config.level ≠ .ok filter) :
    Promised before config (.refused .loggingInit)
  | first {filter : Filter} (husable : config.Usable filter) (hbefore : Untouched before) :
    Promised before config .done
  | later {filter : Filter} (husable : config.Usable filter) (hbefore : ¬ Untouched before) :
    Promised before config (.refused .loggingInit)

/-- How a log has to stand after some happenings: empty without a call that could install a
collector, and else with the collector of the first such call, and with those events after it that
the filter of the collector admits, beginning with its own. -/
inductive Stands : List Happening → Log → Prop
  | idle {happenings : List Happening} (h : Untouched happenings) : Stands happenings {}
  | installed {before after : List Happening} {config : Config} {filter : Filter}
    (hbefore : Untouched before) (h : config.Usable filter) :
    Stands (before ++ Happening.setUp config :: after)
      { collector := some ⟨filter, config⟩
        events := (Event.started config.service :: eventsOf after).filter filter.admits }

/-- All calls are answered as promised, and the log stands as it has to. -/
structure AsPromised (happenings : List Happening) : Prop where
  replies : ∀ before config after, happenings = before ++ Happening.setUp config :: after →
    Promised before config (reply before config)
  log : Stands happenings (Log.after happenings)

/-! ## One call -/

/-- What a set-up can do. -/
inductive Log.SetUp (log : Log) (config : Config) : Except Error Log → Prop
  | disabled (henabled : config.enabled = false) : SetUp log config (.ok log)
  | blank (henabled : config.enabled = true) (hblank : trim config.service.toList = []) :
    SetUp log config (.error .blankService)
  | unreadable {error : DirectiveError} (henabled : config.enabled = true)
    (hnamed : trim config.service.toList ≠ []) (hparse : Filter.parse config.level = .error error) :
    SetUp log config (.error (.filter error))
  | first {filter : Filter} (husable : config.Usable filter) (hcollector : log.collector = none) :
    SetUp log config (.ok
      (Log.record { log with collector := some ⟨filter, config⟩ } (.started config.service)))
  | later {filter : Filter} (husable : config.Usable filter)
    (hcollector : log.collector.isSome = true) : SetUp log config (.error .alreadySetUp)

/-- All that one call can do. -/
theorem Log.setUp_cases (log : Log) (config : Config) : log.SetUp config (log.setUp config) := by
  unfold setUp
  by_cases henabled : config.enabled = true
  · rw [if_neg (by simp [henabled])]
    by_cases hblank : trim config.service.toList = []
    · rw [if_pos ((isBlank_iff config.service).mpr hblank)]
      exact .blank henabled hblank
    · rw [if_neg (mt (isBlank_iff config.service).mp hblank)]
      cases hparse : Filter.parse config.level with
      | error error => exact .unreadable henabled hblank hparse
      | ok filter =>
        dsimp only
        split_ifs with hcollector
        · exact .later ⟨henabled, hblank, hparse⟩ hcollector
        · exact .first ⟨henabled, hblank, hparse⟩ (Option.not_isSome_iff_eq_none.mp hcollector)
  · rw [if_pos (by simp [henabled])]
    exact .disabled (Bool.eq_false_of_not_eq_true henabled)

theorem Log.next_setUp (log : Log) (config : Config) :
    log.next (.setUp config) = (log.setUp config).toOption.getD log :=
  congrArg Prod.snd (Steps.run_setUp config log)

theorem reply_eq (before : List Happening) (config : Config) :
    reply before config = .of (((Log.after before).setUp config).map fun _ ↦ ()) :=
  congrArg (Reply.of ∘ Prod.fst) (Steps.run_setUp config (Log.after before))

/-- A collector keeps the events that its filter admits. -/
theorem Log.record_collector (collector : Collector) (events : List Event) (event : Event) :
    Log.record ⟨some collector, events⟩ event =
      ⟨some collector, events ++ [event].filter collector.filter.admits⟩ := by
  by_cases hadmits : collector.filter.admits event = true
  · simp [record, hadmits]
  · simp [record, hadmits]

/-! ## Any happenings -/

/-- A history is untouched if both its parts are. -/
theorem untouched_append_iff {before after : List Happening} :
    Untouched (before ++ after) ↔ Untouched before ∧ Untouched after := by
  simp only [Untouched, setUps, List.filterMap_append, List.forall_mem_append]

theorem untouched_event (event : Event) : Untouched [.event event] := by
  intro config hconfig
  cases hconfig

/-- Only a call that is usable touches the log. -/
theorem untouched_setUp_iff {config : Config} :
    Untouched [.setUp config] ↔ ∀ filter, ¬ config.Usable filter :=
  List.forall_mem_singleton

namespace Stands

variable {happenings : List Happening} {log : Log}

/-- A collector is there just when a call could install one. -/
theorem collector_eq_none_iff (h : Stands happenings log) :
    log.collector = none ↔ Untouched happenings := by
  cases h with
  | idle h => exact iff_of_true rfl h
  | @installed before after config filter hbefore h =>
    apply iff_of_false (by simp)
    intro huntouched
    exact huntouched config (by simp [setUps]) filter h

/-- A call that is not the first of those that could install a collector changes nothing. -/
theorem append_setUp (h : Stands happenings log) {config : Config}
    (hlater : log.collector = none → ∀ filter, ¬ config.Usable filter) :
    Stands (happenings ++ [Happening.setUp config]) log := by
  cases h with
  | idle h =>
    apply Stands.idle
    exact untouched_append_iff.mpr ⟨h, untouched_setUp_iff.mpr (hlater rfl)⟩
  | @installed before after first filter hbefore h =>
    have hstands :
        Stands (before ++ Happening.setUp first :: (after ++ [Happening.setUp config])) _ :=
      .installed hbefore h
    rw [List.append_assoc, List.cons_append]
    simpa [eventsOf] using hstands

theorem append_event (h : Stands happenings log) (event : Event) :
    Stands (happenings ++ [Happening.event event]) (log.record event) := by
  cases h with
  | idle h => exact .idle (untouched_append_iff.mpr ⟨h, untouched_event event⟩)
  | @installed before after config filter hbefore h =>
    have hstands :
        Stands (before ++ Happening.setUp config :: (after ++ [Happening.event event])) _ :=
      .installed hbefore h
    have hevents : Event.started config.service :: eventsOf (after ++ [Happening.event event]) =
        (Event.started config.service :: eventsOf after) ++ [event] :=
      congrArg (Event.started config.service :: ·) List.filterMap_append
    rw [hevents, List.filter_append] at hstands
    rw [List.append_assoc, List.cons_append, Log.record_collector]
    exact hstands

theorem append_first (h : Stands happenings log) {config : Config} {filter : Filter}
    (husable : config.Usable filter) (hcollector : log.collector = none) :
    Stands (happenings ++ [Happening.setUp config])
      (Log.record { log with collector := some ⟨filter, config⟩ } (.started config.service)) := by
  cases h with
  | idle h =>
    rw [Log.record_collector]
    exact .installed h husable
  | installed => cases hcollector

/-- The log stands as it has to after one more happening. -/
theorem next (h : Stands happenings log) (happening : Happening) :
    Stands (happenings ++ [happening]) (log.next happening) := by
  cases happening with
  | event event => exact h.append_event event
  | setUp config =>
    rw [Log.next_setUp]
    have hcases := log.setUp_cases config
    generalize log.setUp config = result at hcases ⊢
    cases hcases with
    | disabled henabled =>
      apply h.append_setUp
      intro _ filter husable
      exact absurd husable.enabled (by simp [henabled])
    | blank _ hblank => exact h.append_setUp fun _ _ husable ↦ husable.named hblank
    | unreadable _ _ hparse =>
      apply h.append_setUp
      intro _ filter husable
      exact absurd husable.readable (by simp [hparse])
    | first husable hcollector => exact h.append_first husable hcollector
    | later husable hcollector =>
      apply h.append_setUp
      intro hnone
      simp [hnone] at hcollector

end Stands

theorem Log.after_append_singleton (happenings : List Happening) (happening : Happening) :
    Log.after (happenings ++ [happening]) = (Log.after happenings).next happening :=
  List.foldl_concat _ _ _ _

/-- The log stands as it has to after anything that happened. -/
theorem stands_after (happenings : List Happening) : Stands happenings (Log.after happenings) := by
  induction happenings using List.reverseRec with
  | nil => exact .idle fun config hconfig ↦ by cases hconfig
  | append_singleton happenings happening ih =>
    rw [Log.after_append_singleton]
    exact ih.next happening

/-! ## Replies -/

/-- A call whose filter is not cut inside a character is answered as promised. -/
theorem promised_reply (before : List Happening) {config : Config} (hwhole : ¬ config.BreaksOff) :
    Promised before config (reply before config) := by
  rw [reply_eq]
  have hcollector := (stands_after before).collector_eq_none_iff
  have hcases := (Log.after before).setUp_cases config
  generalize (Log.after before).setUp config = result at hcases ⊢
  cases hcases with
  | disabled henabled => exact .disabled henabled
  | blank henabled hblank => exact .blank henabled hblank
  | @unreadable error henabled hnamed hparse =>
    have hreply : (Error.filter error).reply = .refused .loggingInit := by
      cases error with
      | splitCharacter => exact absurd ⟨henabled, hnamed, hparse⟩ hwhole
      | malformed | unknownLevel | field => rfl
    rw [Except.map, Reply.of, hreply]
    exact .unreadable henabled hnamed fun filter ↦ by simp [hparse]
  | first husable hnone => exact .first husable (hcollector.mp hnone)
  | later husable hsome =>
    apply Promised.later husable
    intro huntouched
    simp [hcollector.mpr huntouched] at hsome

/-- Such a call breaks off, whatever was set up before. -/
theorem Log.setUp_of_breaksOff {config : Config} (h : config.BreaksOff) (log : Log) :
    log.setUp config = .error (.filter .splitCharacter) := by
  have hcases := log.setUp_cases config
  generalize log.setUp config = result at hcases ⊢
  cases hcases with
  | disabled henabled => exact absurd h.enabled (by simp [henabled])
  | blank _ hblank => exact absurd hblank h.named
  | unreadable _ _ hparse => rw [Except.error.inj (hparse.symm.trans h.cut)]
  | first husable | later husable => exact absurd husable.readable (by simp [h.cut])

theorem reply_of_breaksOff {config : Config} (h : config.BreaksOff) (before : List Happening) :
    reply before config = .brokenOff := by
  rw [reply_eq, Log.setUp_of_breaksOff h]
  rfl

/-- A call that is switched off or not accepted leaves no trace. -/
theorem Log.after_call {before : List Happening} {config : Config}
    (h : config.enabled = false ∨ reply before config ≠ .done) (after : List Happening) :
    Log.after (before ++ Happening.setUp config :: after) = Log.after (before ++ after) := by
  have hnext : (Log.after before).next (.setUp config) = Log.after before := by
    rw [reply_eq] at h
    rw [next_setUp]
    have hcases := (Log.after before).setUp_cases config
    generalize (Log.after before).setUp config = result at hcases h ⊢
    cases hcases with
    | first husable =>
      rcases h with hdisabled | hreply
      · exact absurd husable.enabled (by simp [hdisabled])
      · exact absurd rfl hreply
    | disabled | blank | unreadable | later => rfl
  calc
    Log.after (before ++ Happening.setUp config :: after) =
        after.foldl next ((Log.after before).next (.setUp config)) := List.foldl_append
    _ = after.foldl next (Log.after before) := by rw [hnext]
    _ = Log.after (before ++ after) := List.foldl_append.symm

theorem exists_of_mem_setUps {happenings : List Happening} {config : Config}
    (h : config ∈ setUps happenings) :
    ∃ before after, happenings = before ++ Happening.setUp config :: after := by
  obtain ⟨happening, hmem, hsome⟩ := List.mem_filterMap.mp h
  cases happening with
  | event event => cases hsome
  | setUp other =>
    cases hsome
    exact List.append_of_mem hmem

/-- The calls that break off are those whose filter is cut inside a character. -/
theorem reply_eq_brokenOff_iff (before : List Happening) (config : Config) :
    reply before config = .brokenOff ↔ config.BreaksOff := by
  constructor
  · intro hreply
    by_contra hwhole
    have hpromised := promised_reply before hwhole
    rw [hreply] at hpromised
    cases hpromised
  · intro h
    exact reply_of_breaksOff h before

theorem asPromised_iff (happenings : List Happening) :
    AsPromised happenings ↔ ∀ config ∈ setUps happenings, ¬ config.BreaksOff := by
  constructor
  · intro h config hconfig hbreaks
    obtain ⟨before, after, heq⟩ := exists_of_mem_setUps hconfig
    have hpromised := h.replies before config after heq
    rw [reply_of_breaksOff hbreaks] at hpromised
    cases hpromised
  · intro h
    refine ⟨?_, stands_after happenings⟩
    rintro before config after rfl
    exact promised_reply before (h config (by simp [setUps]))

/-! ## All calls together -/

/-- How the log of a process is governed by the calls for set-ups. -/
structure Governed (happenings : List Happening) : Prop where
  /-- At most one call installs its collector, and its filter alone decides on events. -/
  log : Stands happenings (Log.after happenings)
  /-- A call that is switched off or not accepted makes no difference. -/
  traceless : ∀ before config after, happenings = before ++ Happening.setUp config :: after →
    config.enabled = false ∨ reply before config ≠ .done →
      Log.after happenings = Log.after (before ++ after)
  /-- A call is answered as promised unless its filter is cut inside a character. -/
  replies : ∀ before config after, happenings = before ++ Happening.setUp config :: after →
    ¬ config.BreaksOff → Promised before config (reply before config)
  /-- Without an answer are just the calls whose filter is cut inside a character. -/
  unanswered : ∀ before config after, happenings = before ++ Happening.setUp config :: after →
    (reply before config = .brokenOff ↔ config.BreaksOff)
  /-- Only a directive with a blank before it and a character of several bytes is cut so. -/
  cut : ∀ config ∈ setUps happenings, config.BreaksOff → ∃ piece ∈ splitAll ',' config.level.toList,
    (∃ c ∈ piece.head?, isBlankChar c = true) ∧ ∃ c ∈ piece, Utf8.length [c] ≠ 1

/-- Whatever is called for and logged in a process, at most one set-up takes effect and the others
leave no trace, and all calls are answered as promised if and only if none has a filter that is cut
inside a character. -/
theorem governed_and_asPromised_iff (happenings : List Happening) :
    Governed happenings ∧
      (AsPromised happenings ↔ ∀ config ∈ setUps happenings, ¬ config.BreaksOff) := by
  refine ⟨?_, asPromised_iff happenings⟩
  constructor
  case log => exact stands_after happenings
  case traceless =>
    rintro before config after rfl h
    exact Log.after_call h after
  case replies =>
    intro before config after _ hwhole
    exact promised_reply before hwhole
  case unanswered =>
    intro before config after _
    exact reply_eq_brokenOff_iff before config
  case cut =>
    intro config _ hbreaks
    exact Filter.exists_of_parse_eq_splitCharacter hbreaks.cut

/-- With a blank before it the target `é` is cut after its first byte. -/
theorem not_asPromised_blank_before_accent : ¬ AsPromised [.setUp { level := " é=loud" }] := by
  rw [asPromised_iff]
  intro h
  have hparse : Filter.parse " é=loud" = .error .splitCharacter := by decide +kernel
  exact h { level := " é=loud" } List.mem_cons_self ⟨rfl, by decide, hparse⟩

end ApiReference.Logging
