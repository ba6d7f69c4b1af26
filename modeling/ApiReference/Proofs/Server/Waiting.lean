import ApiReference.Proofs.Runs
import ApiReference.Proofs.Server.Connections

/-!
# Waiting for the Last Token

Tokens are taken and given up while waiters register, look at the count, park and wake, in any order
of their steps.  Whatever the order, a waiter returns only from a look at a count of zero, and no
notification is lost: a waiter that is parked without one is still owed one, by a token that is held
or by a notification that is due.
-/

namespace ApiReference.Server.Tracker

variable {tracker next : Tracker} {step : Step}

/-! ## What a tracker owes its waiters -/

/-- What a step makes of the notifications that are due, while the count is `active`. -/
def Step.onDue (active : Nat) : Step → Nat → Nat
  | .release _, due => if active = 1 then due + 1 else due
  | .notify, due => due - 1
  | _, due => due

/-- A step changes the notifications that are due as it says, and no other way. -/
theorem due_of_step (h : tracker.step step = some next) :
    next.due = step.onDue tracker.active tracker.due := by
  cases step with
  | acquire | wait =>
    cases h
    rfl
  | release | notify | register | check | wake =>
    rw [Tracker.step] at h
    split at h <;> cases h
    rfl

/-- A waiter that is parked without a notification is owed one. -/
def Owes (tracker : Tracker) : Prop :=
  ∀ index : Nat, tracker.waiters[index]? = some (.parked false) →
    0 < tracker.active ∨ 0 < tracker.due

/-- A waiter is parked without a notification because it was so, or because its own check saw that
tokens are held. -/
theorem Moved.of_unnotified {index : Nat} (h : tracker.Moved index step (.parked false)) :
    tracker.waiters[index]? = some (.parked false) ∧ step ≠ .notify ∨
      step = .check index ∧ 0 < tracker.active := by
  generalize hwaiter : Waiter.parked false = waiter at h
  cases h with
  | kept hstep hbefore => exact .inl ⟨hwaiter ▸ hbefore, hstep⟩
  | @notified before => cases before <;> cases hwaiter
  | parked hactive => exact .inr ⟨rfl, Nat.pos_of_ne_zero hactive⟩
  | _ => cases hwaiter

/-- A waiter that is parked without a notification stays owed one. -/
theorem owes_of_step (howes : tracker.Owes) (h : tracker.step step = some next) : next.Owes := by
  intro index hindex
  rw [active_of_step h, due_of_step h]
  rcases (moved_of_step h hindex).of_unnotified with ⟨hbefore, hstep⟩ | ⟨rfl, hactive⟩
  · have howed := howes index hbefore
    cases step with
    | acquire => exact .inl (Nat.succ_pos _)
    | release token =>
      -- the last token that is given up leaves a notification behind
      simp only [Step.onCount, Step.onDue]
      split <;> omega
    | notify => exact absurd rfl hstep
    | _ => exact howed
  · exact .inl hactive

/-! ## Waiters that go on -/

section

variable {index : Nat} {waiter : Waiter}

theorem attempt_of_some (h : tracker.step step = some next) : tracker.attempt step = next := by
  rw [attempt, h, Option.getD_some]

theorem attempt_of_none (h : tracker.step step = none) : tracker.attempt step = tracker := by
  rw [attempt, h, Option.getD_none]

theorem getElem?_waiters_set (hwaiter : tracker.waiters[index]? = some waiter) (after : Waiter) :
    (tracker.waiters.set index after)[index]? = some after := by
  rw [List.getElem?_set_self', hwaiter]
  rfl

/-- A waiter that is registered is done after a look at a count of zero. -/
theorem isDone_check (hactive : tracker.active = 0)
    (hwaiter : tracker.waiters[index]? = some waiter)
    (hready : (∃ notified, waiter = .registered notified) ∨ waiter = .returned) :
    (tracker.attempt (.check index)).isDone index = true := by
  rw [isDone, beq_iff_eq]
  rcases hready with ⟨notified, rfl⟩ | rfl
  · have hstep : tracker.step (.check index) =
        some { tracker with waiters := tracker.waiters.set index .returned } := by
      simp only [Tracker.step, hwaiter, if_pos hactive]
    rw [attempt_of_some hstep]
    exact getElem?_waiters_set hwaiter .returned
  · have hstep : tracker.step (.check index) = none := by
      simp only [Tracker.step, hwaiter]
    rw [attempt_of_none hstep, hwaiter]

/-- A waiter that has not registered yet registers. -/
theorem exists_registered (hwaiter : tracker.waiters[index]? = some waiter)
    (hparked : ∀ notified, waiter ≠ .parked notified) :
    (tracker.attempt (.register index)).active = tracker.active ∧ ∃ ready,
      (tracker.attempt (.register index)).waiters[index]? = some ready ∧
        ((∃ notified, ready = .registered notified) ∨ ready = .returned) := by
  by_cases hstarting : waiter = .starting
  · subst hstarting
    have hstep : tracker.step (.register index) =
        some { tracker with waiters := tracker.waiters.set index (.registered false) } := by
      rw [Tracker.step, if_pos hwaiter]
    rw [attempt_of_some hstep]
    exact ⟨rfl, _, getElem?_waiters_set hwaiter _, .inl ⟨false, rfl⟩⟩
  · have hstep : tracker.step (.register index) = none := by
      rw [Tracker.step, if_neg]
      rw [hwaiter, Option.some_inj]
      exact hstarting
    rw [attempt_of_none hstep]
    refine ⟨rfl, waiter, hwaiter, ?_⟩
    cases waiter with
    | starting => exact absurd rfl hstarting
    | registered notified => exact .inl ⟨notified, rfl⟩
    | parked notified => exact absurd rfl (hparked notified)
    | returned => exact .inr rfl

/-- A waiter that is parked with a notification wakes. -/
theorem exists_awake (hwaiter : tracker.waiters[index]? = some waiter)
    (hnotified : waiter ≠ .parked false) :
    (tracker.attempt (.wake index)).active = tracker.active ∧ ∃ awake,
      (tracker.attempt (.wake index)).waiters[index]? = some awake ∧
        ∀ notified, awake ≠ .parked notified := by
  by_cases hparked : waiter = .parked true
  · subst hparked
    have hstep : tracker.step (.wake index) =
        some { tracker with waiters := tracker.waiters.set index .starting } := by
      rw [Tracker.step, if_pos hwaiter]
    rw [attempt_of_some hstep]
    exact ⟨rfl, _, getElem?_waiters_set hwaiter _, by simp⟩
  · have hstep : tracker.step (.wake index) = none := by
      rw [Tracker.step, if_neg]
      rw [hwaiter, Option.some_inj]
      exact hparked
    rw [attempt_of_none hstep]
    refine ⟨rfl, waiter, hwaiter, fun notified ↦ ?_⟩
    cases notified with
    | false => exact hnotified
    | true => exact hparked

/-- While the count is zero, a waiter that goes on is done unless it waits for a notification. -/
theorem isDone_poll (hactive : tracker.active = 0)
    (hwaiter : tracker.waiters[index]? = some waiter) (hnotified : waiter ≠ .parked false) :
    (tracker.poll index).isDone index = true := by
  obtain ⟨hwoken, awake, hawake, hparked⟩ := exists_awake hwaiter hnotified
  obtain ⟨hregistered, ready, hready, hcases⟩ := exists_registered hawake hparked
  exact isDone_check (hregistered.trans (hwoken.trans hactive)) hready hcases

end

/-! ## Whole runs -/

theorem mem_of_held {tokens : List Bool} {token : Nat} (h : tokens.getD token false = true) :
    true ∈ tokens := by
  rw [List.getD_eq_getElem?_getD] at h
  cases htoken : tokens[token]? with
  | none =>
    rw [htoken] at h
    cases h
  | some held =>
    rw [htoken] at h
    exact h ▸ List.mem_of_getElem? htoken

theorem after_append (tracker : Tracker) (before rest : List Step) :
    tracker.after (before ++ rest) = (tracker.after before).bind fun next ↦ next.after rest :=
  List.foldlM_append

/-- A run keeps the count, and what it owes to its waiters. -/
theorem counts_and_owes_of_after {steps : List Step}
    (h : ({} : Tracker).after steps = some tracker) : tracker.Counts ∧ tracker.Owes := by
  refine run_induction (P := fun _ tracker ↦ tracker.Counts ∧ tracker.Owes) ?first ?further h
  case first => exact ⟨rfl, by simp [Owes]⟩
  case further =>
    rintro _ last step next - hstep ⟨hcounts, howes⟩
    exact ⟨counts_of_step hcounts hstep, owes_of_step howes hstep⟩

/-- A waiter that is done has looked at a count of zero. -/
theorem exists_check_of_after {steps : List Step} (h : ({} : Tracker).after steps = some tracker)
    {index : Nat} (hreturned : tracker.waiters[index]? = some .returned) :
    ∃ before rest last, steps = before ++ .check index :: rest ∧
      ({} : Tracker).after before = some last ∧ last.active = 0 := by
  induction steps using List.reverseRec generalizing tracker with
  | nil =>
    cases h
    cases hreturned
  | append_singleton steps step ih =>
    obtain ⟨last, hlast, hstep⟩ := exists_of_foldlM_append_singleton h
    rcases (moved_of_step hstep hreturned).of_returned with hbefore | ⟨rfl, hactive⟩
    · obtain ⟨before, rest, seen, rfl, hseen⟩ := ih hlast hbefore
      exact ⟨before, rest ++ [step], seen, by simp, hseen⟩
    · exact ⟨steps, [], last, rfl, hlast, hactive⟩

/-- A token is given up only while the count is not zero. -/
theorem exists_active_of_after {before rest : List Step} {token : Nat}
    (h : ({} : Tracker).after (before ++ .release token :: rest) = some tracker) :
    ∃ last, ({} : Tracker).after before = some last ∧ 0 < last.active := by
  rw [after_append] at h
  obtain ⟨last, hlast, hrest⟩ := Option.bind_eq_some_iff.mp h
  obtain ⟨next, hnext, -⟩ := Option.bind_eq_some_iff.mp hrest
  have hheld := held_of_release hnext
  have hcounts : last.active = last.tokens.count true := (counts_and_owes_of_after hlast).1
  refine ⟨last, hlast, ?_⟩
  rw [hcounts, List.count_pos_iff]
  exact mem_of_held hheld

/-- What is asked of a tracker for the sake of those who wait for its last token. -/
structure Reliable (steps : List Step) (tracker : Tracker) : Prop where
  counts : tracker.active = tracker.tokens.count true
  releases : ∀ before token rest, steps = before ++ .release token :: rest →
    ∃ last, ({} : Tracker).after before = some last ∧ 0 < last.active
  returns : ∀ index, tracker.isDone index = true → ∃ before rest last,
    steps = before ++ .check index :: rest ∧ ({} : Tracker).after before = some last ∧
      last.active = 0
  notifies : tracker.active = 0 → tracker.due = 0 → ∀ (index : Nat) (notified : Bool),
    tracker.waiters[index]? = some (.parked notified) → notified = true
  finishes : tracker.active = 0 → tracker.due = 0 → ∀ index < tracker.waiters.length,
    (tracker.poll index).isDone index = true

/-- Every tracker is reliable, whatever the order in which its steps were taken. -/
theorem reliable_of_after {steps : List Step} (h : ({} : Tracker).after steps = some tracker) :
    Reliable steps tracker := by
  obtain ⟨hcounts, howes⟩ := counts_and_owes_of_after h
  have hnotified (hactive : tracker.active = 0) (hdue : tracker.due = 0) (index : Nat) :
      tracker.waiters[index]? ≠ some (.parked false) := by
    intro hparked
    have howed := howes index hparked
    omega
  constructor
  case counts => exact hcounts
  case releases =>
    rintro before token rest rfl
    exact exists_active_of_after h
  case returns =>
    intro index hdone
    exact exists_check_of_after h (beq_iff_eq.mp hdone)
  case notifies =>
    intro hactive hdue index notified hparked
    cases notified with
    | false => exact absurd hparked (hnotified hactive hdue index)
    | true => rfl
  case finishes =>
    intro hactive hdue index hlt
    have hwaiter := List.getElem?_eq_getElem hlt
    refine isDone_poll hactive hwaiter fun hparked ↦ ?_
    rw [hparked] at hwaiter
    exact hnotified hactive hdue index hwaiter

/-- A count that falls to zero and rises again before the notification for it is made.  The second
waiter looks while the first one is parked, and both are woken for nothing the first time. -/
def risingSteps : List Step :=
  [.acquire, .wait, .register 0, .check 0, .wait, .register 1, .release 0, .acquire, .check 1,
    .notify, .wake 0, .register 0, .check 0, .release 1, .wake 1, .notify, .register 1, .check 1]

theorem reliable_risingSteps : ∃ tracker, ({} : Tracker).after risingSteps = some tracker ∧
    Reliable risingSteps tracker :=
  ⟨_, rfl, reliable_of_after rfl⟩

end ApiReference.Server.Tracker
