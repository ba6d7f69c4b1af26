import ApiReference.Server.Connections
import Mathlib

/-!
# What a Tracker Counts

The count of a tracker is the number of tokens that are still held.  Only a new token raises it, and
a waiter returns only while it is zero.
-/

namespace ApiReference.Server.Tracker

/-- The count is the number of tokens that are held. -/
def Counts (tracker : Tracker) : Prop :=
  tracker.active = tracker.tokens.count true

def Step.onTokens : Step → List Bool → List Bool
  | .acquire, tokens => tokens ++ [true]
  | .release token, tokens => tokens.set token false
  | _, tokens => tokens

def Step.onCount : Step → Nat → Nat
  | .acquire, count => count + 1
  | .release _, count => count - 1
  | _, count => count

variable {tracker next : Tracker} {step : Step}

/-- A token is given up only while it is held. -/
theorem held_of_release {token : Nat} (h : tracker.step (.release token) = some next) :
    tracker.tokens.getD token false = true := by
  by_contra hheld
  rw [Tracker.step, if_neg hheld] at h
  cases h

/-- A step changes the tokens as it says, and no other way. -/
theorem tokens_of_step (h : tracker.step step = some next) :
    next.tokens = step.onTokens tracker.tokens := by
  cases step with
  | acquire | wait =>
    cases h
    rfl
  | release | notify | register | wake =>
    rw [Tracker.step] at h
    split at h <;> cases h
    rfl
  | check =>
    rw [Tracker.step] at h
    split at h <;> cases h
    rfl

/-- A step changes the count as it says, and no other way. -/
theorem active_of_step (h : tracker.step step = some next) :
    next.active = step.onCount tracker.active := by
  cases step with
  | acquire | wait =>
    cases h
    rfl
  | release | notify | register | wake =>
    rw [Tracker.step] at h
    split at h <;> cases h
    rfl
  | check =>
    rw [Tracker.step] at h
    split at h <;> cases h
    rfl

/-- Only a new token raises the count. -/
theorem active_le_of_step (h : tracker.step step = some next) (hstep : step ≠ .acquire) :
    next.active ≤ tracker.active := by
  rw [active_of_step h]
  cases step with
  | acquire => exact absurd rfl hstep
  | release => exact Nat.sub_le _ _
  | _ => exact le_rfl

/-- One held token less is counted when it is given back. -/
theorem count_set_false {tokens : List Bool} {token : Nat} (h : tokens.getD token false = true) :
    (tokens.set token false).count true = tokens.count true - 1 := by
  rw [List.getD_eq_getElem?_getD] at h
  have hlt : token < tokens.length := by
    by_contra hge
    rw [List.getElem?_eq_none (Nat.le_of_not_lt hge)] at h
    cases h
  rw [List.getElem?_eq_getElem hlt, Option.getD_some] at h
  rw [List.count_set hlt, h]
  rfl

/-- The count stays that of the tokens. -/
theorem counts_of_step (hcounts : tracker.Counts) (h : tracker.step step = some next) :
    next.Counts := by
  unfold Counts at *
  rw [active_of_step h, tokens_of_step h]
  cases step with
  | acquire => rw [Step.onTokens, Step.onCount, List.count_append, hcounts]; rfl
  | release token =>
    rw [Step.onTokens, Step.onCount, count_set_false (held_of_release h), hcounts]
  | _ => exact hcounts

/-! ## Waiters -/

/-- What a step of a tracker can make of the waiter at a place: a waiter is as it was, or it is
there because of a step of its own, a notification or its arrival. -/
inductive Moved (tracker : Tracker) (index : Nat) : Step → Waiter → Prop
  | kept {step : Step} {waiter : Waiter} (hstep : step ≠ .notify)
    (hbefore : tracker.waiters[index]? = some waiter) : Moved tracker index step waiter
  | notified {waiter : Waiter} (hbefore : tracker.waiters[index]? = some waiter) :
    Moved tracker index .notify waiter.notify
  | arrived : Moved tracker index .wait .starting
  | registered : Moved tracker index (.register index) (.registered false)
  | returned (hactive : tracker.active = 0) : Moved tracker index (.check index) .returned
  | parked {notified : Bool} (hactive : tracker.active ≠ 0) :
    Moved tracker index (.check index) (.parked notified)
  | woken : Moved tracker index (.wake index) .starting

theorem getElem?_set_cases {α : Type} {items : List α} {place index : Nat} {a b : α}
    (h : (items.set place a)[index]? = some b) :
    place = index ∧ a = b ∨ items[index]? = some b := by
  rw [List.getElem?_set] at h
  split_ifs at h with hplace hlt
  · exact .inl ⟨hplace, Option.some.inj h⟩
  · exact .inr h

/-- A step moves a waiter only in the ways that are listed. -/
theorem moved_of_step (h : tracker.step step = some next) {index : Nat} {waiter : Waiter}
    (hwaiter : next.waiters[index]? = some waiter) : tracker.Moved index step waiter := by
  cases step with
  | acquire =>
    cases h
    exact .kept nofun hwaiter
  | release token =>
    rw [Tracker.step] at h
    split at h <;> cases h
    exact .kept nofun hwaiter
  | notify =>
    rw [Tracker.step] at h
    split at h <;> cases h
    rw [List.getElem?_map] at hwaiter
    obtain ⟨before, hbefore, rfl⟩ := Option.map_eq_some_iff.mp hwaiter
    exact .notified hbefore
  | wait =>
    cases h
    rw [List.getElem?_append] at hwaiter
    split at hwaiter
    · exact .kept nofun hwaiter
    · rw [List.mem_singleton.mp (List.mem_of_getElem? hwaiter)]
      exact .arrived
  | register place =>
    rw [Tracker.step] at h
    split at h <;> cases h
    obtain ⟨rfl, rfl⟩ | hbefore := getElem?_set_cases hwaiter
    · exact .registered
    · exact .kept nofun hbefore
  | check place =>
    rw [Tracker.step] at h
    split at h <;> cases h
    obtain ⟨rfl, hset⟩ | hbefore := getElem?_set_cases hwaiter
    · split_ifs at hset with hactive
      · exact hset ▸ .returned hactive
      · exact hset ▸ .parked hactive
    · exact .kept nofun hbefore
  | wake place =>
    rw [Tracker.step] at h
    split at h <;> cases h
    obtain ⟨rfl, rfl⟩ | hbefore := getElem?_set_cases hwaiter
    · exact .woken
    · exact .kept nofun hbefore

/-- The waiter at a place returns in its own check, and only if that sees a count of zero. -/
theorem Moved.of_returned {index : Nat} (h : tracker.Moved index step .returned) :
    tracker.waiters[index]? = some .returned ∨ step = .check index ∧ tracker.active = 0 := by
  generalize hwaiter : Waiter.returned = waiter at h
  cases h with
  | kept _ hbefore => exact .inl (hwaiter ▸ hbefore)
  | @notified before hbefore =>
    cases before <;> cases hwaiter
    exact .inl hbefore
  | returned hactive => exact .inr ⟨rfl, hactive⟩
  | _ => cases hwaiter

/-- A waiter returns in a check that sees a count of zero. -/
theorem returned_of_step (h : tracker.step step = some next)
    (hreturned : Waiter.returned ∈ next.waiters) :
    Waiter.returned ∈ tracker.waiters ∨ (∃ waiter, step = .check waiter) ∧ tracker.active = 0 := by
  obtain ⟨index, hindex⟩ := List.mem_iff_getElem?.mp hreturned
  rcases (moved_of_step h hindex).of_returned with hbefore | ⟨hstep, hactive⟩
  · exact .inl (List.mem_of_getElem? hbefore)
  · exact .inr ⟨⟨index, hstep⟩, hactive⟩

end ApiReference.Server.Tracker
