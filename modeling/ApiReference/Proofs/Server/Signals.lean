import ApiReference.Proofs.Runs
import ApiReference.Server.Shutdown
import Mathlib

/-!
# Signals on a Watched Flag

A signal is kept as a flag that is watched.  Every change gives the flag a new version and wakes the
waiters that are parked, and so does the end of the last handle, after which there are no changes
any more.  A waiter that is parked goes on only when it was woken, and looks again only at a version
that is new to it.  Whatever the order of the steps, no waiter misses what it waits for: polled, it
is done just when the signal was triggered or no handle is left.
-/

namespace ApiReference.Server

/-- How far a waiter has come.  If it is parked, it may have been woken since. -/
inductive WatchStage where
  | started
  | parked (woken : Bool)
  | done
  deriving DecidableEq

/-- A waiter: the version of the flag that it saw last and how far it has come. -/
structure Watcher where
  seen : Nat
  stage : WatchStage

/-- A waiter after a wake-up. -/
def Watcher.wake (watcher : Watcher) : Watcher :=
  match watcher.stage with
  | .parked _ => { watcher with stage := .parked true }
  | _ => watcher

/-- A flag that is watched: its value and version, whether nothing can change it any more, which of
the handles through which it is changed are alive, and the waiters. -/
structure WatchedFlag where
  value : Bool := false
  version : Nat := 0
  closed : Bool := false
  handles : List Bool := [true]
  watchers : List Watcher := []

namespace WatchedFlag

def isAlive (flag : WatchedFlag) (handle : Nat) : Bool :=
  flag.handles.getD handle false

/-- The flag after a change that says itself whether it is one.  Only then the waiters are woken. -/
def sendIfModified (flag : WatchedFlag) (change : Bool → Bool × Bool) : WatchedFlag :=
  let (value, modified) := change flag.value
  if modified then
    { flag with
      value
      version := flag.version + 1
      watchers := flag.watchers.map Watcher.wake }
  else { flag with value }

def trigger (flag : WatchedFlag) : WatchedFlag :=
  flag.sendIfModified fun triggered ↦ (true, !triggered)

/-- The flag without one of its handles.  With the last one goes the side that can change it. -/
def release (flag : WatchedFlag) (handle : Nat) : WatchedFlag :=
  if (flag.handles.set handle false).contains true then
    { flag with handles := flag.handles.set handle false }
  else
    { flag with
      handles := flag.handles.set handle false
      closed := true
      watchers := flag.watchers.map Watcher.wake }

/-- A waiter that found the flag unset: it is done if that is final, and else it is parked. -/
def settle (flag : WatchedFlag) : Watcher :=
  ⟨flag.version, if flag.closed then .done else .parked false⟩

/-- A waiter that looks at the flag. -/
def look (flag : WatchedFlag) : Watcher :=
  if flag.value then ⟨flag.version, .done⟩ else flag.settle

/-- A waiter after it went on as far as it can.  Its first look does not ask for the version. -/
def goOn (flag : WatchedFlag) (watcher : Watcher) : Watcher :=
  match watcher.stage with
  | .started => flag.look
  | .parked true => if watcher.seen = flag.version then flag.settle else flag.look
  | _ => watcher

/-- The flag after a step of the signal, if the step can be taken: its handle is alive, or its
waiter is there and not done yet. -/
def step (flag : WatchedFlag) : Signal.Step → Option WatchedFlag
  | .clone handle =>
    if flag.isAlive handle then some { flag with handles := flag.handles ++ [true] } else none
  | .drop handle => if flag.isAlive handle then some (flag.release handle) else none
  | .trigger handle => if flag.isAlive handle then some flag.trigger else none
  | .receive handle =>
    if flag.isAlive handle then
      some { flag with watchers := flag.watchers ++ [⟨flag.version, .started⟩] }
    else none
  | .poll waiter =>
    flag.watchers[waiter]?.bind fun watcher ↦
      if watcher.stage = .done then none
      else some { flag with watchers := flag.watchers.set waiter (flag.goOn watcher) }

/-- The flag after some steps, if they can be taken one after another. -/
def after (flag : WatchedFlag) (steps : List Signal.Step) : Option WatchedFlag :=
  steps.foldlM step flag

def isDone (flag : WatchedFlag) (waiter : Nat) : Bool :=
  flag.watchers[waiter]?.any fun watcher ↦ watcher.stage = .done

/-- The signal that is kept as the flag. -/
def signal (flag : WatchedFlag) : Signal :=
  ⟨flag.value, flag.handles, flag.watchers.map fun watcher ↦ watcher.stage = .done⟩

/-! ## Waiters -/

/-- There is nothing to wait for any more. -/
def IsOver (flag : WatchedFlag) : Prop :=
  flag.value = true ∨ flag.closed = true

/-- Where a waiter may stand.  One that is parked saw the first version, in which the flag is unset,
and was woken if and only if there is nothing to wait for any more. -/
inductive Stands (flag : WatchedFlag) : Watcher → Prop
  | started (seen : Nat) : Stands flag ⟨seen, .started⟩
  | waiting (hover : ¬flag.IsOver) : Stands flag ⟨0, .parked false⟩
  | woken (hover : flag.IsOver) : Stands flag ⟨0, .parked true⟩
  | done (seen : Nat) (hover : flag.IsOver) : Stands flag ⟨seen, .done⟩

/-- What holds of a flag at any time: it is changed at most once, it is closed when no handle is
left, and no waiter was forgotten. -/
structure Sound (flag : WatchedFlag) : Prop where
  version : flag.version = if flag.value then 1 else 0
  closed : flag.closed = !flag.handles.contains true
  stands : ∀ watcher ∈ flag.watchers, flag.Stands watcher

variable {flag next : WatchedFlag} {step : Signal.Step} {watcher : Watcher}

/-- A waiter that is woken stands where it may, once there is nothing to wait for. -/
theorem Stands.wake (h : flag.Stands watcher) (hover : next.IsOver) :
    next.Stands watcher.wake := by
  cases h with
  | started seen => exact .started seen
  | waiting | woken => exact .woken hover
  | done seen => exact .done seen hover

/-- A waiter stands as before while there is as much to wait for as before. -/
theorem Stands.of_iff (h : flag.Stands watcher) (hover : next.IsOver ↔ flag.IsOver) :
    next.Stands watcher := by
  cases h with
  | started seen => exact .started seen
  | waiting hwaits => exact .waiting (mt hover.mp hwaits)
  | woken hwoken => exact .woken (hover.mpr hwoken)
  | done seen hdone => exact .done seen (hover.mpr hdone)

theorem stage_settle_of_closed (hclosed : flag.closed = true) : flag.settle.stage = .done := by
  rw [settle, if_pos hclosed]

/-- A waiter that looks is done if there is nothing to wait for. -/
theorem stage_look_of_isOver (hover : flag.IsOver) : flag.look.stage = .done := by
  unfold look
  by_cases hvalue : flag.value = true
  · rw [if_pos hvalue]
  · rw [if_neg hvalue]
    exact stage_settle_of_closed (hover.resolve_left hvalue)

/-- A waiter that goes on while there is nothing to wait for any more is done. -/
theorem stage_goOn_of_isOver (hsound : flag.Sound) (h : flag.Stands watcher)
    (hover : flag.IsOver) : (flag.goOn watcher).stage = .done := by
  cases h with
  | started seen => exact stage_look_of_isOver hover
  | waiting hwaits => exact absurd hover hwaits
  | woken =>
    show (if 0 = flag.version then flag.settle else flag.look).stage = .done
    by_cases hversion : 0 = flag.version
    · -- the first version is the one in which the flag is unset
      rw [if_pos hversion]
      apply stage_settle_of_closed
      apply hover.resolve_left
      intro hvalue
      rw [hsound.version, if_pos hvalue] at hversion
      exact Nat.zero_ne_one hversion
    · rw [if_neg hversion]
      exact stage_look_of_isOver hover
  | done => rfl

/-- A waiter that goes on too early is parked. -/
theorem goOn_of_not_isOver (hsound : flag.Sound) (h : flag.Stands watcher)
    (hover : ¬flag.IsOver) : flag.goOn watcher = ⟨0, .parked false⟩ := by
  have hvalue : flag.value = false := by
    rw [← Bool.not_eq_true]
    exact fun hvalue ↦ hover (.inl hvalue)
  have hclosed : flag.closed = false := by
    rw [← Bool.not_eq_true]
    exact fun hclosed ↦ hover (.inr hclosed)
  cases h with
  | started seen =>
    show flag.look = _
    rw [look, settle, hsound.version, hvalue, hclosed]
    rfl
  | waiting => rfl
  | woken hwoken => exact absurd hwoken hover
  | done seen hdone => exact absurd hdone hover

/-- A waiter that goes on as far as it can stands where it may. -/
theorem stands_goOn (hsound : flag.Sound) (h : flag.Stands watcher) :
    flag.Stands (flag.goOn watcher) := by
  by_cases hover : flag.IsOver
  · have hstage := stage_goOn_of_isOver hsound h hover
    generalize flag.goOn watcher = after at hstage
    obtain ⟨seen, stage⟩ := after
    exact (show stage = .done from hstage) ▸ .done seen hover
  · rw [goOn_of_not_isOver hsound h hover]
    exact .waiting hover

/-! ## One step -/

theorem contains_of_isAlive {handle : Nat} (h : flag.isAlive handle = true) :
    flag.handles.contains true = true := by
  rw [isAlive, List.getD_eq_getElem?_getD] at h
  cases hhandle : flag.handles[handle]? with
  | none =>
    rw [hhandle] at h
    cases h
  | some alive =>
    rw [hhandle, Option.getD_some] at h
    exact List.contains_iff_mem.mpr (h ▸ List.mem_of_getElem? hhandle)

/-- A step through a handle is taken only while the handle is alive. -/
theorem some_of_ite {alive : Bool} {after : WatchedFlag}
    (h : (if alive then some after else none) = some next) : alive = true ∧ next = after := by
  split at h
  · next halive => exact ⟨halive, (Option.some.inj h).symm⟩
  · cases h

/-- Only a watcher that is not done is polled, and nothing else changes. -/
theorem exists_watcher_of_poll {waiter : Nat} (h : flag.step (.poll waiter) = some next) :
    ∃ watcher, flag.watchers[waiter]? = some watcher ∧ watcher.stage ≠ .done ∧
      next = { flag with watchers := flag.watchers.set waiter (flag.goOn watcher) } := by
  obtain ⟨watcher, hwatcher, hpolled⟩ := Option.bind_eq_some_iff.mp h
  refine ⟨watcher, hwatcher, ?_⟩
  split at hpolled
  · cases hpolled
  · next hdone => exact ⟨hdone, (Option.some.inj hpolled).symm⟩

/-- A flag that is set is not changed, and nobody is woken. -/
theorem trigger_of_set (hvalue : flag.value = true) : flag.trigger = flag := by
  rw [trigger, sendIfModified, hvalue]
  exact congrArg (fun value ↦ { flag with value }) hvalue.symm

theorem trigger_of_unset (hvalue : flag.value = false) : flag.trigger =
    { flag with
      value := true
      version := flag.version + 1
      watchers := flag.watchers.map Watcher.wake } := by
  rw [trigger, sendIfModified, hvalue]
  rfl

/-- Triggering wakes all waiters, so that none is forgotten. -/
theorem sound_trigger (hsound : flag.Sound) : flag.trigger.Sound := by
  cases hvalue : flag.value with
  | true =>
    rw [trigger_of_set hvalue]
    exact hsound
  | false =>
    rw [trigger_of_unset hvalue]
    constructor
    · show flag.version + 1 = 1
      rw [hsound.version, hvalue]
      rfl
    · exact hsound.closed
    · intro watcher hwatcher
      obtain ⟨before, hbefore, rfl⟩ := List.mem_map.mp hwatcher
      exact (hsound.stands before hbefore).wake (.inl rfl)

/-- Giving up a handle wakes all waiters if it was the last one. -/
theorem sound_release (hsound : flag.Sound) {handle : Nat} (halive : flag.isAlive handle = true) :
    (flag.release handle).Sound := by
  have hopen : flag.closed = false := by
    rw [hsound.closed, contains_of_isAlive halive]
    rfl
  unfold release
  by_cases hlast : (flag.handles.set handle false).contains true = true
  · rw [if_pos hlast]
    constructor
    · exact hsound.version
    · rw [hlast]
      exact hopen
    · intro watcher hwatcher
      exact (hsound.stands watcher hwatcher).of_iff Iff.rfl
  · rw [if_neg hlast]
    constructor
    · exact hsound.version
    · rw [Bool.not_eq_true] at hlast
      rw [hlast]
      rfl
    · intro watcher hwatcher
      obtain ⟨before, hbefore, rfl⟩ := List.mem_map.mp hwatcher
      exact (hsound.stands before hbefore).wake (.inr rfl)

/-- A step keeps a flag sound. -/
theorem sound_of_step (hsound : flag.Sound) (h : flag.step step = some next) : next.Sound := by
  cases step with
  | clone handle =>
    obtain ⟨halive, rfl⟩ := some_of_ite h
    constructor
    · exact hsound.version
    · rw [hsound.closed, contains_of_isAlive halive]
      simp
    · intro watcher hwatcher
      exact (hsound.stands watcher hwatcher).of_iff Iff.rfl
  | drop handle =>
    obtain ⟨halive, rfl⟩ := some_of_ite h
    exact sound_release hsound halive
  | trigger handle =>
    obtain ⟨-, rfl⟩ := some_of_ite h
    exact sound_trigger hsound
  | receive handle =>
    obtain ⟨-, rfl⟩ := some_of_ite h
    constructor
    · exact hsound.version
    · exact hsound.closed
    · intro watcher hwatcher
      rcases List.mem_append.mp hwatcher with hwatcher | hwatcher
      · exact (hsound.stands watcher hwatcher).of_iff Iff.rfl
      · rw [List.mem_singleton.mp hwatcher]
        exact .started flag.version
  | poll waiter =>
    obtain ⟨polled, hpolled, -, rfl⟩ := exists_watcher_of_poll h
    constructor
    · exact hsound.version
    · exact hsound.closed
    · intro watcher hwatcher
      rcases List.mem_or_eq_of_mem_set hwatcher with hwatcher | rfl
      · exact (hsound.stands watcher hwatcher).of_iff Iff.rfl
      · have hstands := hsound.stands polled (List.mem_of_getElem? hpolled)
        exact (stands_goOn hsound hstands).of_iff Iff.rfl

/-- The signal is over just if there is nothing to wait for. -/
theorem isOver_signal_iff (hsound : flag.Sound) : flag.signal.isOver = true ↔ flag.IsOver := by
  rw [Signal.isOver, Bool.or_eq_true, IsOver, hsound.closed]
  rfl

theorem done_wake (watcher : Watcher) :
    decide (watcher.wake.stage = .done) = decide (watcher.stage = .done) := by
  obtain ⟨seen, stage⟩ := watcher
  cases stage <;> rfl

theorem waiters_signal_wake (flag : WatchedFlag) :
    (flag.watchers.map Watcher.wake).map (fun watcher ↦ decide (watcher.stage = .done)) =
      flag.signal.waiters := by
  rw [List.map_map]
  apply List.map_congr_left
  intro watcher _
  exact done_wake watcher

/-- The signal takes every step that its flag takes. -/
theorem signal_of_step (hsound : flag.Sound) (h : flag.step step = some next) :
    next.signal = flag.signal.step step := by
  cases step with
  | clone handle =>
    obtain ⟨halive, rfl⟩ := some_of_ite h
    rw [Signal.step, if_pos (show flag.signal.isAlive handle = true from halive)]
    rfl
  | drop handle =>
    obtain ⟨-, rfl⟩ := some_of_ite h
    rw [Signal.step, release]
    split
    · rfl
    · rw [signal, waiters_signal_wake]
      rfl
  | trigger handle =>
    obtain ⟨halive, rfl⟩ := some_of_ite h
    rw [Signal.step, if_pos (show flag.signal.isAlive handle = true from halive)]
    cases hvalue : flag.value with
    | true =>
      rw [trigger_of_set hvalue]
      exact congrArg (fun triggered ↦ { flag.signal with triggered }) hvalue
    | false =>
      rw [trigger_of_unset hvalue, signal, waiters_signal_wake]
      rfl
  | receive handle =>
    obtain ⟨halive, rfl⟩ := some_of_ite h
    rw [Signal.step, if_pos (show flag.signal.isAlive handle = true from halive), signal,
      List.map_append]
    rfl
  | poll waiter =>
    obtain ⟨watcher, hwatcher, hdone, rfl⟩ := exists_watcher_of_poll h
    have hstands := hsound.stands watcher (List.mem_of_getElem? hwatcher)
    rw [Signal.step, signal, List.map_set]
    by_cases hover : flag.IsOver
    · rw [if_pos ((isOver_signal_iff hsound).mpr hover), stage_goOn_of_isOver hsound hstands hover]
      rfl
    · rw [if_neg (mt (isOver_signal_iff hsound).mp hover), goOn_of_not_isOver hsound hstands hover]
      have hpending : flag.signal.waiters[waiter]? = some false := by
        rw [signal, List.getElem?_map, hwatcher, Option.map_some, decide_eq_false hdone]
      have hsame : flag.signal.waiters.set waiter false = flag.signal.waiters := by
        apply List.ext_getElem?
        intro index
        rw [List.getElem?_set']
        split
        · next hindex => rw [← hindex, hpending]; rfl
        · rfl
      exact congrArg (Signal.mk flag.value flag.handles) hsame

/-! ## Histories -/

def isClone : Signal.Step → Bool
  | .clone _ => true
  | _ => false

/-- The signal was triggered, through any handle. -/
def Triggered (steps : List Signal.Step) : Prop :=
  ∃ handle, .trigger handle ∈ steps

/-- A handle is there from the beginning or was made by a clone, and it was not dropped. -/
def Alive (steps : List Signal.Step) (handle : Nat) : Prop :=
  handle < steps.countP isClone + 1 ∧ .drop handle ∉ steps

/-- What its history says of a flag and its handles. -/
structure Records (steps : List Signal.Step) (flag : WatchedFlag) : Prop where
  value : flag.value = true ↔ Triggered steps
  length : flag.handles.length = steps.countP isClone + 1
  dropped : ∀ handle, .drop handle ∈ steps → handle < flag.handles.length
  alive : ∀ handle, flag.isAlive handle = true ↔ Alive steps handle

theorem triggered_append_singleton {steps : List Signal.Step} :
    Triggered (steps ++ [step]) ↔ Triggered steps ∨ ∃ handle, step = .trigger handle := by
  simp only [Triggered, List.mem_append, List.mem_singleton, exists_or, eq_comm]

/-- Only a trigger sets the flag, and nothing takes it back. -/
theorem value_of_step (h : flag.step step = some next) :
    next.value = true ↔ flag.value = true ∨ ∃ handle, step = .trigger handle := by
  cases step with
  | trigger handle =>
    obtain ⟨-, rfl⟩ := some_of_ite h
    cases hvalue : flag.value with
    | true => simp [trigger_of_set hvalue, hvalue]
    | false => simp [trigger_of_unset hvalue]
  | drop handle =>
    obtain ⟨-, rfl⟩ := some_of_ite h
    unfold release
    split <;> simp
  | clone | receive =>
    obtain ⟨-, rfl⟩ := some_of_ite h
    simp
  | poll waiter =>
    obtain ⟨watcher, -, -, rfl⟩ := exists_watcher_of_poll h
    simp

def onHandles : Signal.Step → List Bool → List Bool
  | .clone _, handles => handles ++ [true]
  | .drop handle, handles => handles.set handle false
  | _, handles => handles

/-- What a step does to the handles depends on nothing else. -/
theorem handles_of_step (h : flag.step step = some next) :
    next.handles = onHandles step flag.handles := by
  cases step with
  | trigger handle =>
    obtain ⟨-, rfl⟩ := some_of_ite h
    cases hvalue : flag.value with
    | true => rw [trigger_of_set hvalue]; rfl
    | false => rw [trigger_of_unset hvalue]; rfl
  | drop handle =>
    obtain ⟨-, rfl⟩ := some_of_ite h
    unfold release
    split <;> rfl
  | clone | receive =>
    obtain ⟨-, rfl⟩ := some_of_ite h
    rfl
  | poll waiter =>
    obtain ⟨watcher, -, -, rfl⟩ := exists_watcher_of_poll h
    rfl

theorem lt_of_isAlive {handle : Nat} (h : flag.isAlive handle = true) :
    handle < flag.handles.length := by
  by_contra hge
  rw [isAlive, List.getD_eq_default _ _ (Nat.le_of_not_lt hge)] at h
  cases h

/-- A step keeps a flag to what its history says. -/
theorem records_of_step {steps : List Signal.Step} (hrecords : Records steps flag)
    (h : flag.step step = some next) : Records (steps ++ [step]) next := by
  have hvalue : next.value = true ↔ Triggered (steps ++ [step]) := by
    rw [value_of_step h, hrecords.value, triggered_append_singleton]
  have hhandles := handles_of_step h
  cases step with
  | clone original =>
    have hlength : next.handles.length = flag.handles.length + 1 := by
      rw [hhandles, onHandles, List.length_append, List.length_singleton]
    constructor
    · exact hvalue
    · rw [hlength, hrecords.length, List.countP_append]
      rfl
    · intro handle hdrop
      have hbefore := hrecords.dropped handle (by simpa using hdrop)
      omega
    · intro handle
      rw [isAlive, hhandles, onHandles, Alive, List.countP_append, ← Nat.add_right_comm,
        ← hrecords.length]
      rcases Nat.lt_trichotomy handle flag.handles.length with hlt | rfl | hgt
      · -- the handle was there before
        have hsame : flag.isAlive handle = true ↔ .drop handle ∉ steps := by
          rw [hrecords.alive, Alive, ← hrecords.length]
          exact and_iff_right hlt
        rw [List.getD_append _ _ _ _ hlt]
        simp only [List.mem_append, List.mem_singleton, reduceCtorEq, or_false]
        rw [← hsame, isAlive]
        exact (and_iff_right (Nat.lt_add_right _ hlt)).symm
      · -- the handle is new, and so nobody dropped it
        have hnew : .drop flag.handles.length ∉ steps := fun hdrop ↦
          Nat.lt_irrefl _ (hrecords.dropped _ hdrop)
        simp [hnew, isClone]
      · have hbeyond : (flag.handles ++ [true]).length ≤ handle := by
          rw [List.length_append, List.length_singleton]
          exact hgt
        rw [List.getD_eq_default _ _ hbeyond]
        simp [isClone]
        omega
  | drop gone =>
    obtain ⟨halive, -⟩ := some_of_ite h
    have hlength : next.handles.length = flag.handles.length := by
      rw [hhandles, onHandles, List.length_set]
    constructor
    · exact hvalue
    · rw [hlength, hrecords.length, List.countP_append]
      rfl
    · intro handle hdrop
      rw [hlength]
      rcases List.mem_append.mp hdrop with hbefore | hnow
      · exact hrecords.dropped handle hbefore
      · cases List.mem_singleton.mp hnow
        exact lt_of_isAlive halive
    · intro handle
      have hbefore := hrecords.alive handle
      rw [isAlive, Alive] at hbefore
      rw [isAlive, hhandles, onHandles, Alive, List.countP_append]
      by_cases hgone : gone = handle
      · have hdropped : (flag.handles.set gone false).getD gone false = false := by
          rw [List.getD_eq_getElem?_getD, List.getElem?_set_self']
          cases flag.handles[gone]? <;> rfl
        rw [← hgone, hdropped]
        simp
      · rw [List.getD_eq_getElem?_getD, List.getElem?_set_ne hgone, ← List.getD_eq_getElem?_getD,
          hbefore]
        simp [isClone, Ne.symm hgone]
  | trigger | receive | poll =>
    have hsame : next.handles = flag.handles := hhandles
    constructor
    · exact hvalue
    · rw [hsame, hrecords.length, List.countP_append]
      rfl
    · intro handle hdrop
      rw [hsame]
      exact hrecords.dropped handle (by simpa using hdrop)
    · intro handle
      rw [isAlive, hsame, ← isAlive, hrecords.alive, Alive, Alive, List.countP_append]
      simp [isClone]

/-! ## Whole runs -/

theorem after_append (flag : WatchedFlag) (before rest : List Signal.Step) :
    flag.after (before ++ rest) = (flag.after before).bind fun next ↦ next.after rest :=
  List.foldlM_append

theorem sound_fresh : ({} : WatchedFlag).Sound := by
  constructor
  · rfl
  · rfl
  · intro watcher hwatcher
    cases hwatcher

theorem records_fresh : Records [] {} := by
  constructor
  · simp [Triggered]
  · rfl
  · intro handle hdrop
    cases hdrop
  · intro handle
    cases handle <;> simp [isAlive, Alive]

section

variable {steps : List Signal.Step} (h : ({} : WatchedFlag).after steps = some flag)

include h

/-- After any steps a flag is sound, and is what its history says. -/
theorem sound_and_records : flag.Sound ∧ Records steps flag := by
  refine run_induction (P := fun steps flag ↦ flag.Sound ∧ Records steps flag) ?first ?further h
  case first => exact ⟨sound_fresh, records_fresh⟩
  case further =>
    rintro steps last step next - hstep ⟨hsound, hrecords⟩
    exact ⟨sound_of_step hsound hstep, records_of_step hrecords hstep⟩

/-- The signal is what the steps make of it, whatever the watchers do between. -/
theorem signal_of_after : flag.signal = steps.foldl Signal.step {} := by
  refine run_induction (P := fun steps flag ↦ flag.signal = steps.foldl Signal.step {})
    rfl ?further h
  case further =>
    intro steps last step next hlast hstep hsignal
    rw [signal_of_step (sound_and_records hlast).1 hstep, hsignal, List.foldl_append]
    rfl

end

/-- There is nothing to wait for once the signal was triggered or no handle is alive any more. -/
theorem isOver_iff {steps : List Signal.Step} (hsound : flag.Sound)
    (hrecords : Records steps flag) :
    flag.IsOver ↔ Triggered steps ∨ ∀ handle, ¬Alive steps handle := by
  rw [IsOver, hrecords.value, hsound.closed, Bool.not_eq_true', ← Bool.not_eq_true]
  apply or_congr_right
  rw [List.contains_iff_mem]
  constructor
  · intro hgone handle halive
    have hcontains := contains_of_isAlive ((hrecords.alive handle).mpr halive)
    exact hgone (List.contains_iff_mem.mp hcontains)
  · intro hgone hmem
    obtain ⟨handle, hhandle⟩ := List.mem_iff_getElem?.mp hmem
    apply hgone handle
    rw [← hrecords.alive, isAlive, List.getD_eq_getElem?_getD, hhandle]
    rfl

/-- What is asked of a signal after some steps.  A handle that is alive says whether one of the
steps triggered the signal, and says so for ever.  A waiter that is polled is done if there was a
trigger or no handle is alive, and stays pending if not; one that is parked was woken if it would be
done.  Triggering once more changes nothing. -/
structure Lawful (steps : List Signal.Step) (flag : WatchedFlag) : Prop where
  signal : flag.signal = steps.foldl Signal.step {}
  shown : ∀ handle answer, flag.signal.isShutdown? handle = some answer ↔
    Alive steps handle ∧ (answer = true ↔ Triggered steps)
  remains : Triggered steps → ∀ rest later, flag.after rest = some later →
    ∀ handle answer, later.signal.isShutdown? handle = some answer → answer = true
  pending : ∀ waiter < flag.watchers.length,
    flag.isDone waiter = false ↔ ∃ next, flag.step (.poll waiter) = some next
  completes : ∀ waiter next, flag.step (.poll waiter) = some next →
    (next.isDone waiter = true ↔ Triggered steps ∨ ∀ handle, ¬Alive steps handle)
  woken : ∀ watcher ∈ flag.watchers, ∀ woken, watcher.stage = .parked woken →
    (woken = true ↔ Triggered steps ∨ ∀ handle, ¬Alive steps handle)
  again : Triggered steps → ∀ handle next, flag.step (.trigger handle) = some next → next = flag

/-- A handle that is alive says whether there was a trigger. -/
theorem isShutdown?_eq_some_iff {steps : List Signal.Step} (hrecords : Records steps flag)
    (handle : Nat) (answer : Bool) : flag.signal.isShutdown? handle = some answer ↔
      Alive steps handle ∧ (answer = true ↔ Triggered steps) := by
  have halive : flag.signal.isAlive handle = true ↔ Alive steps handle := hrecords.alive handle
  rw [Signal.isShutdown?, Option.ite_none_right_eq_some, halive, Option.some_inj,
    ← hrecords.value, eq_comm, Bool.eq_iff_iff]
  rfl

/-- A waiter that is polled is done just if there is nothing to wait for. -/
theorem isDone_of_poll {waiter : Nat} (hsound : flag.Sound)
    (h : flag.step (.poll waiter) = some next) : next.isDone waiter = true ↔ flag.IsOver := by
  obtain ⟨watcher, hwatcher, -, rfl⟩ := exists_watcher_of_poll h
  have hstands := hsound.stands watcher (List.mem_of_getElem? hwatcher)
  have hafter : (flag.watchers.set waiter (flag.goOn watcher))[waiter]? =
      some (flag.goOn watcher) := by
    rw [List.getElem?_set_self', hwatcher]
    rfl
  rw [isDone, hafter, Option.any_some, decide_eq_true_iff]
  constructor
  · intro hdone
    by_contra hover
    rw [goOn_of_not_isOver hsound hstands hover] at hdone
    cases hdone
  · exact stage_goOn_of_isOver hsound hstands

/-- A waiter can be polled until it is done. -/
theorem isDone_eq_false_iff {waiter : Nat} (hwaiter : waiter < flag.watchers.length) :
    flag.isDone waiter = false ↔ ∃ next, flag.step (.poll waiter) = some next := by
  rw [isDone, step, List.getElem?_eq_getElem hwaiter, Option.any_some, Option.bind_some,
    decide_eq_false_iff_not]
  constructor
  · intro hdone
    rw [if_neg hdone]
    exact ⟨_, rfl⟩
  · rintro ⟨next, hnext⟩ hdone
    rw [if_pos hdone] at hnext
    cases hnext

theorem Stands.woken_iff (h : flag.Stands watcher) {woken : Bool}
    (hstage : watcher.stage = .parked woken) : woken = true ↔ flag.IsOver := by
  cases h with
  | started | done => cases hstage
  | waiting hover =>
    cases hstage
    exact iff_of_false Bool.false_ne_true hover
  | woken hover =>
    cases hstage
    exact iff_of_true rfl hover

/-- Every signal is lawful, whatever the order in which its steps were taken. -/
theorem lawful_of_after {steps : List Signal.Step}
    (h : ({} : WatchedFlag).after steps = some flag) : Lawful steps flag := by
  obtain ⟨hsound, hrecords⟩ := sound_and_records h
  have hover := isOver_iff hsound hrecords
  constructor
  case signal => exact signal_of_after h
  case shown => exact isShutdown?_eq_some_iff hrecords
  case remains =>
    rintro ⟨handle, htrigger⟩ rest later hrest other answer hanswer
    have hlater : ({} : WatchedFlag).after (steps ++ rest) = some later := by
      rw [after_append, h]
      exact hrest
    have hshown := (isShutdown?_eq_some_iff (sound_and_records hlater).2 other answer).mp hanswer
    exact hshown.2.mpr ⟨handle, List.mem_append_left rest htrigger⟩
  case pending =>
    intro waiter hwaiter
    exact isDone_eq_false_iff hwaiter
  case completes =>
    intro waiter next hpoll
    rw [isDone_of_poll hsound hpoll, hover]
  case woken =>
    intro watcher hwatcher woken hstage
    rw [(hsound.stands watcher hwatcher).woken_iff hstage, hover]
  case again =>
    intro htriggered handle next htrigger
    obtain ⟨-, rfl⟩ := some_of_ite htrigger
    exact trigger_of_set (hrecords.value.mpr htriggered)

/-- A waiter is parked before the trigger, and one that is not polled yet outlives all handles. -/
def outlivingSteps : List Signal.Step :=
  [.receive 0, .clone 0, .poll 0, .drop 0, .trigger 1, .receive 1, .trigger 1, .drop 1, .poll 1,
    .poll 0]

theorem lawful_outlivingSteps : ∃ flag, ({} : WatchedFlag).after outlivingSteps = some flag ∧
    Lawful outlivingSteps flag :=
  ⟨_, rfl, lawful_of_after rfl⟩

end WatchedFlag

end ApiReference.Server
