import ApiReference.Proofs.Runs
import ApiReference.Proofs.Server.Connections
import ApiReference.Proofs.Server.Heads
import ApiReference.Server.Lifecycle

/-!
# Safety of a Run

The steps of a run may be taken in any order in which they can be taken.  Whatever the order, the
tracker counts the connections that are accepted and not closed, none is accepted after the run has
stopped, every probe is answered that the service is not ready once the flag is cleared, and the run
returns only when no connection is open or its time is over.

What a step can do is said once, in `Takes`.  From it follow what one step keeps of a run (`Sound`)
and of its history (`Records`), and by induction on the steps what every run keeps.
-/

namespace ApiReference.Server.Run

open Http

/-! ## Steps -/

namespace Step

/-- What a step asks of the phase, the signal and the time. -/
def Allowed (run : Run) : Step → Prop
  | .accept => run.phase = .accepting
  | .stop => run.phase = .accepting ∧ run.triggered = true
  | .clearReadiness => run.phase = .stopping
  | .dropListener => run.phase = .cleared
  | .register | .check | .wake | .endTime => run.phase = .draining
  | .finish => run.phase = .draining ∧ (run.isDrained = true ∨ run.timeIsOver = true)
  | .trigger | .request .. | .close _ | .notify => True

/-- The phase that a step begins. -/
def begins? : Step → Option Phase
  | .stop => some .stopping
  | .clearReadiness => some .cleared
  | .dropListener => some .draining
  | .finish => some .returned
  | _ => none

/-- The step of the tracker that a step makes. -/
def tracked? : Step → Option Tracker.Step
  | .accept => some .acquire
  | .close connection => some (.release connection)
  | .notify => some .notify
  | .dropListener => some .wait
  | .register => some (.register 0)
  | .check => some (.check 0)
  | .wake => some (.wake 0)
  | _ => none

end Step

/-- A step can be taken, and what it makes of a run. -/
structure Takes (run : Run) (step : Step) (next : Run) : Prop where
  allowed : step.Allowed run
  site : next.site = if step = .clearReadiness then run.site.setReady false else run.site
  phase : next.phase = step.begins?.getD run.phase
  triggered : next.triggered = (run.triggered || step == .trigger)
  timeIsOver : next.timeIsOver = (run.timeIsOver || step == .endTime)
  tracker : step.tracked?.elim (some run.tracker) run.tracker.step = some next.tracker

theorem exists_tracker_of_track {run next : Run} {step : Tracker.Step}
    (h : run.track step = some next) :
    ∃ tracker, run.tracker.step step = some tracker ∧ { run with tracker } = next := by
  rw [track, Option.map_eq_some_iff] at h
  exact h

/-- A step does to a run one of the things that are listed. -/
theorem takes_of_step {run next : Run} {step : Step} (h : run.step step = some next) :
    run.Takes step next := by
  cases step with
  | trigger =>
    cases h
    exact ⟨trivial, rfl, rfl, (Bool.or_true _).symm, (Bool.or_false _).symm, rfl⟩
  | request =>
    rw [Run.step] at h
    split at h <;> cases h
    exact ⟨trivial, rfl, rfl, (Bool.or_false _).symm, (Bool.or_false _).symm, rfl⟩
  | close | notify =>
    obtain ⟨tracker, htracker, rfl⟩ := exists_tracker_of_track h
    exact ⟨trivial, rfl, rfl, (Bool.or_false _).symm, (Bool.or_false _).symm, htracker⟩
  | accept | register | check | wake =>
    rw [Run.step] at h
    split at h
    case isTrue hphase =>
      obtain ⟨tracker, htracker, rfl⟩ := exists_tracker_of_track h
      exact ⟨hphase, rfl, rfl, (Bool.or_false _).symm, (Bool.or_false _).symm, htracker⟩
    case isFalse => cases h
  | dropListener =>
    rw [Run.step] at h
    split at h
    case isTrue hphase =>
      obtain ⟨tracker, htracker, rfl⟩ := exists_tracker_of_track h
      exact ⟨hphase, rfl, rfl, (Bool.or_false _).symm, (Bool.or_false _).symm, htracker⟩
    case isFalse => cases h
  | stop | clearReadiness | finish =>
    rw [Run.step] at h
    split at h
    case isTrue hallowed =>
      cases h
      exact ⟨hallowed, rfl, rfl, (Bool.or_false _).symm, (Bool.or_false _).symm, rfl⟩
    case isFalse => cases h
  | endTime =>
    rw [Run.step] at h
    split at h
    case isTrue hallowed =>
      cases h
      exact ⟨hallowed, rfl, rfl, (Bool.or_false _).symm, (Bool.or_true _).symm, rfl⟩
    case isFalse => cases h

/-! ## What a run keeps -/

/-- The phases of a run whose flag is cleared. -/
def Phase.isCleared (phase : Phase) : Bool :=
  phase ∈ [.cleared, .draining, .returned]

/-- What holds of a run at any time. -/
structure Sound (run : Run) : Prop where
  counts : run.tracker.Counts
  triggered : run.phase ≠ .accepting → run.triggered = true
  unready : Phase.isCleared run.phase = true → run.site.readiness.flag = false
  drained : Waiter.returned ∈ run.tracker.waiters →
    run.phase ≠ .accepting ∧ run.tracker.active = 0

variable {run next : Run} {step : Step}

theorem Step.tracked?_eq_acquire (h : step.tracked? = some .acquire) : step = .accept := by
  cases step <;> cases h
  rfl

theorem Step.tracked?_eq_check {waiter : Nat} (h : step.tracked? = some (.check waiter)) :
    step = .check := by
  cases step <;> cases h
  rfl

namespace Takes

/-- A step of a run is a step of its tracker or leaves the tracker as it is. -/
theorem tracker_cases (h : run.Takes step next) : next.tracker = run.tracker ∨
    ∃ tracked, step.tracked? = some tracked ∧ run.tracker.step tracked = some next.tracker := by
  have htracker := h.tracker
  cases htracked : step.tracked? with
  | none =>
    rw [htracked] at htracker
    exact .inl (Option.some.inj htracker).symm
  | some tracked =>
    rw [htracked] at htracker
    exact .inr ⟨tracked, rfl, htracker⟩

/-- A run that has stopped accepting does not begin again. -/
theorem phase_ne_accepting (h : run.Takes step next) (hphase : run.phase ≠ .accepting) :
    next.phase ≠ .accepting := by
  rw [h.phase]
  cases step with
  | stop | clearReadiness | dropListener | finish => exact nofun
  | _ => exact hphase

/-- The flag of a run is cleared by one step only, and stays so. -/
theorem isCleared_phase (h : run.Takes step next) : Phase.isCleared next.phase = true ↔
    Phase.isCleared run.phase = true ∨ step = .clearReadiness := by
  have hallowed := h.allowed
  rw [h.phase]
  cases step with
  | stop => simp [Step.begins?, Phase.isCleared, hallowed.1]
  | clearReadiness => simp [Step.begins?, Phase.isCleared]
  | dropListener =>
    have hphase : run.phase = .cleared := hallowed
    simp [Step.begins?, Phase.isCleared, hphase]
  | finish => simp [Step.begins?, Phase.isCleared, hallowed.1]
  | _ => simp [Step.begins?]

end Takes

namespace Sound

theorem start (site : Site) : Sound { site } where
  counts := rfl
  triggered := nofun
  unready := nofun
  drained := nofun

theorem of_takes (hsound : run.Sound) (h : run.Takes step next) : next.Sound where
  counts := by
    rcases h.tracker_cases with hsame | ⟨tracked, -, htracked⟩
    · rw [hsame]
      exact hsound.counts
    · exact Tracker.counts_of_step hsound.counts htracked
  triggered := by
    have hallowed := h.allowed
    intro hphase
    rw [h.phase] at hphase
    rw [h.triggered, Bool.or_eq_true]
    left
    cases step with
    | stop => exact hallowed.2
    | clearReadiness | dropListener =>
      apply hsound.triggered
      rw [hallowed]
      decide
    | finish =>
      apply hsound.triggered
      rw [hallowed.1]
      decide
    | _ => exact hsound.triggered hphase
  unready := by
    rw [h.isCleared_phase, h.site]
    intro hcleared
    by_cases hclear : step = .clearReadiness
    · rw [if_pos hclear]
      rfl
    · rw [if_neg hclear]
      exact hsound.unready (hcleared.resolve_right hclear)
  drained := by
    intro hreturned
    rcases h.tracker_cases with hsame | ⟨tracked, htracked, hstep⟩
    · rw [hsame] at hreturned ⊢
      have hdrained := hsound.drained hreturned
      exact ⟨h.phase_ne_accepting hdrained.1, hdrained.2⟩
    · -- nothing is accepted any more, so that the count stays zero
      have hkept : run.phase ≠ .accepting ∧ run.tracker.active = 0 := by
        rcases Tracker.returned_of_step hstep hreturned with hbefore | ⟨⟨waiter, rfl⟩, hzero⟩
        · exact hsound.drained hbefore
        · have hcheck := Step.tracked?_eq_check htracked
          have hallowed := h.allowed
          rw [hcheck] at hallowed
          constructor
          · rw [show run.phase = .draining from hallowed]
            decide
          · exact hzero
      have hacquire : tracked ≠ .acquire := by
        rintro rfl
        have hallowed := h.allowed
        rw [Step.tracked?_eq_acquire htracked] at hallowed
        exact hkept.1 hallowed
      have hle := Tracker.active_le_of_step hstep hacquire
      exact ⟨h.phase_ne_accepting hkept.1, by omega⟩

end Sound

/-! ## What the history of a run says -/

/-- The connections that are accepted and not closed in some steps.  They are numbered as they are
accepted. -/
def openAfter (steps : List Step) : List Nat :=
  (List.range (steps.count .accept)).filter fun connection ↦ Step.close connection ∉ steps

/-- A run is what its history makes it. -/
structure Records (steps : List Step) (run : Run) : Prop where
  triggered : run.triggered = true → Step.trigger ∈ steps
  timeIsOver : run.timeIsOver = true → Step.endTime ∈ steps
  stopped : Step.stop ∈ steps → run.phase ≠ .accepting
  cleared : Phase.isCleared run.phase = true ↔ Step.clearReadiness ∈ steps
  accepted : ∀ connection, Step.close connection ∈ steps → connection < steps.count .accept
  tokens : run.tracker.tokens = (List.range (steps.count .accept)).map fun connection ↦
    decide (Step.close connection ∉ steps)

namespace Records

variable {steps : List Step}

theorem start (site : Site) : Records [] { site } where
  triggered := nofun
  timeIsOver := nofun
  stopped := nofun
  cleared := ⟨nofun, nofun⟩
  accepted := nofun
  tokens := rfl

/-- A connection that is closed was accepted and open. -/
theorem open_of_close (hrecords : Records steps run) {connection : Nat}
    (h : run.Takes (.close connection) next) :
    connection < steps.count .accept ∧ Step.close connection ∉ steps := by
  have hheld := Tracker.held_of_release h.tracker
  rw [hrecords.tokens, List.getD_eq_getElem?_getD, List.getElem?_map] at hheld
  by_cases hlt : connection < steps.count .accept
  · constructor
    · exact hlt
    · simpa [hlt] using hheld
  · simp [hlt] at hheld

/-- Steps other than these two leave the tokens as they are. -/
theorem tokens_of_takes (h : run.Takes step next) (haccept : step ≠ .accept)
    (hclose : ∀ connection, step ≠ .close connection) :
    next.tracker.tokens = run.tracker.tokens := by
  rcases h.tracker_cases with hsame | ⟨tracked, htracked, hstep⟩
  · rw [hsame]
  · rw [Tracker.tokens_of_step hstep]
    cases step with
    | accept => exact absurd rfl haccept
    | close connection => exact absurd rfl (hclose connection)
    | _ => cases htracked <;> rfl

theorem tokens_eq (hrecords : Records steps run) (h : run.Takes step next) :
    next.tracker.tokens = (List.range ((steps ++ [step]).count .accept)).map fun connection ↦
      decide (Step.close connection ∉ steps ++ [step]) := by
  by_cases haccept : step = .accept
  · subst haccept
    have hstep : run.tracker.step .acquire = some next.tracker := h.tracker
    have hnew : Step.close (steps.count .accept) ∉ steps := fun hclose ↦
      (hrecords.accepted _ hclose).false
    calc
      next.tracker.tokens = run.tracker.tokens ++ [true] := Tracker.tokens_of_step hstep
      _ = (List.range (steps.count .accept + 1)).map fun connection ↦
          decide (Step.close connection ∉ steps) := by
        rw [hrecords.tokens, List.range_succ, List.map_append]
        simp [hnew]
      _ = _ := by simp
  · have hcount : (steps ++ [step]).count .accept = steps.count .accept := by
      simp [haccept]
    rw [hcount]
    by_cases hclose : ∃ connection, step = .close connection
    · obtain ⟨closed, rfl⟩ := hclose
      have hstep : run.tracker.step (.release closed) = some next.tracker := h.tracker
      calc
        next.tracker.tokens = run.tracker.tokens.set closed false := Tracker.tokens_of_step hstep
        _ = _ := by
          rw [hrecords.tokens]
          apply List.ext_getElem
          · simp
          · intro connection _ _
            by_cases hsame : connection = closed
            · simp [hsame]
            · simp [hsame, Ne.symm hsame]
    · have hne : ∀ connection, step ≠ .close connection := fun connection heq ↦
        hclose ⟨connection, heq⟩
      rw [tokens_of_takes h haccept hne, hrecords.tokens]
      simp [fun connection ↦ (hne connection).symm]

theorem of_takes (hrecords : Records steps run) (h : run.Takes step next) :
    Records (steps ++ [step]) next where
  triggered := by
    rw [h.triggered, Bool.or_eq_true, beq_iff_eq, List.mem_append, List.mem_singleton]
    exact Or.imp hrecords.triggered Eq.symm
  timeIsOver := by
    rw [h.timeIsOver, Bool.or_eq_true, beq_iff_eq, List.mem_append, List.mem_singleton]
    exact Or.imp hrecords.timeIsOver Eq.symm
  stopped := by
    rw [List.mem_append, List.mem_singleton]
    rintro (hstopped | rfl)
    · exact h.phase_ne_accepting (hrecords.stopped hstopped)
    · rw [h.phase]
      exact nofun
  cleared := by
    rw [h.isCleared_phase, hrecords.cleared, List.mem_append, List.mem_singleton]
    exact or_congr_right eq_comm
  accepted := by
    intro connection hclose
    have hle : steps.count .accept ≤ (steps ++ [step]).count .accept := by
      rw [List.count_append]
      exact Nat.le_add_right _ _
    rcases List.mem_append.mp hclose with hbefore | hlast
    · exact (hrecords.accepted connection hbefore).trans_le hle
    · rw [← List.mem_singleton.mp hlast] at h
      exact (hrecords.open_of_close h).1.trans_le hle
  tokens := hrecords.tokens_eq h

/-- The count of the tracker is the number of open connections. -/
theorem active_eq (hrecords : Records steps run) (hcounts : run.tracker.Counts) :
    run.tracker.active = (openAfter steps).length := by
  rw [hcounts, hrecords.tokens, List.count, List.countP_map, List.countP_eq_length_filter,
    openAfter]
  congr 2
  funext connection
  simp

end Records

/-! ## Whole runs -/

theorem after_append (run : Run) (before rest : List Step) :
    run.after (before ++ rest) = (run.after before).bind fun next ↦ next.after rest :=
  List.foldlM_append

/-- A run is sound after any steps, and is what its history says. -/
theorem sound_and_records {site : Site} {steps : List Step} {run : Run}
    (h : ({ site } : Run).after steps = some run) : run.Sound ∧ Records steps run := by
  refine run_induction (P := fun steps run ↦ run.Sound ∧ Records steps run) ?first ?further h
  case first => exact ⟨.start site, .start site⟩
  case further =>
    rintro steps last step next - hstep ⟨hsound, hrecords⟩
    have htakes := takes_of_step hstep
    exact ⟨hsound.of_takes htakes, hrecords.of_takes htakes⟩

/-- Before each step of a run stands a run, in which that step can be taken. -/
theorem exists_allowed {site : Site} {before rest : List Step} {step : Step} {run : Run}
    (h : ({ site } : Run).after (before ++ step :: rest) = some run) :
    ∃ last : Run, ({ site } : Run).after before = some last ∧ step.Allowed last := by
  rw [after_append] at h
  obtain ⟨last, hlast, hrest⟩ := Option.bind_eq_some_iff.mp h
  obtain ⟨next, hnext, -⟩ := Option.bind_eq_some_iff.mp hrest
  exact ⟨last, hlast, (takes_of_step hnext).allowed⟩

/-- After the listener is given up nothing is accepted any more. -/
theorem accept_notMem_of_stop {site : Site} {before rest : List Step} {run : Run}
    (h : ({ site } : Run).after (before ++ .stop :: rest) = some run) : Step.accept ∉ rest := by
  intro haccept
  obtain ⟨between, later, rfl⟩ := List.append_of_mem haccept
  rw [← List.cons_append, ← List.append_assoc] at h
  obtain ⟨last, hlast, hallowed⟩ := exists_allowed h
  have hstopped := (sound_and_records hlast).2.stopped (by simp)
  exact hstopped hallowed

/-- A probe is answered 503 while the flag is cleared. -/
theorem status_ready {site : Site} (h : site.readiness.flag = false) (uptimeSeconds : Nat)
    {uri : Uri} (hpath : uri.path = "/ready") :
    (site.respond uptimeSeconds .get uri).status = 503 := by
  have hroute : Route.ofPath? uri.path = some .ready := by
    rw [hpath]
    decide
  have hready : site.readiness.report.ready = false := by
    rw [Readiness.report, h, Bool.false_and]
  rw [site.respond_get_of_route uptimeSeconds hroute, Site.serve]
  simp [hready, Response.json]

/-- What is asked of a run for the sake of its connections and of those who probe it.  The wait for
the connections begins when the listener is given up, and the run returns when it finishes. -/
structure Safe (steps : List Step) (run : Run) : Prop where
  counted : run.tracker.active = (openAfter steps).length
  refuses : ∀ before rest, steps = before ++ .stop :: rest → Step.accept ∉ rest
  unready : Step.clearReadiness ∈ steps → ∀ uptimeSeconds uri, uri.path = "/ready" →
    (run.site.respond uptimeSeconds .get uri).status = 503
  drains : ∀ before rest, steps = before ++ .dropListener :: rest →
    Step.trigger ∈ before ∧ Step.clearReadiness ∈ before
  returns : ∀ before rest, steps = before ++ .finish :: rest →
    openAfter before = [] ∨ Step.endTime ∈ before

/-- Every run is safe, whatever the order of its steps. -/
theorem safe_of_after {site : Site} {steps : List Step} {run : Run}
    (h : ({ site } : Run).after steps = some run) : Safe steps run := by
  have hboth := sound_and_records h
  constructor
  case counted => exact hboth.2.active_eq hboth.1.counts
  case refuses =>
    rintro before rest rfl
    exact accept_notMem_of_stop h
  case unready =>
    intro hclear uptimeSeconds uri hpath
    have hcleared := hboth.2.cleared.mpr hclear
    exact status_ready (hboth.1.unready hcleared) uptimeSeconds hpath
  case drains =>
    rintro before rest rfl
    obtain ⟨last, hlast, hallowed⟩ := exists_allowed h
    have hphase : last.phase = .cleared := hallowed
    have hbefore := sound_and_records hlast
    constructor
    · apply hbefore.2.triggered
      apply hbefore.1.triggered
      rw [hphase]
      decide
    · apply hbefore.2.cleared.mp
      rw [hphase]
      decide
  case returns =>
    rintro before rest rfl
    obtain ⟨last, hlast, -, hover⟩ := exists_allowed h
    have hbefore := sound_and_records hlast
    rcases hover with hdrained | htime
    · left
      have hreturned : Waiter.returned ∈ last.tracker.waiters :=
        List.mem_of_getElem? (beq_iff_eq.mp hdrained)
      have hzero := (hbefore.1.drained hreturned).2
      rw [hbefore.2.active_eq hbefore.1.counts] at hzero
      exact List.length_eq_zero_iff.mp hzero
    · right
      exact hbefore.2.timeIsOver htime

/-- A run that is probed while it waits, and returns when its time is over. -/
def lateSteps : List Step :=
  [.accept, .accept, .trigger, .accept, .close 1, .stop, .clearReadiness, .dropListener, .register,
    .check, .request 0 .get ⟨"/ready", none⟩, .close 2, .endTime, .finish, .close 0, .notify]

theorem safe_lateSteps : ∃ run, ({ site := .of .platform {} } : Run).after lateSteps = some run ∧
    Safe lateSteps run :=
  ⟨_, rfl, safe_of_after rfl⟩

end ApiReference.Server.Run
