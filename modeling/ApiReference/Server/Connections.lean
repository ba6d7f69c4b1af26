/-!
# Counting Connections

A tracker counts the tokens of open connections.  Giving up a token lowers the count, and giving up
the last one notifies in a step of its own every waiter that is registered then.  A waiter registers
before it looks at the count, so that no notification falls between the two.
-/

namespace ApiReference.Server

/-- Where a waiter stands.  Once it is registered it may have been notified.  It is parked, or has
returned, as soon as it has read the count: what it does from then until it gives up its turn
touches nothing that others see, so that steps of others may come before it, between or after. -/
inductive Waiter where
  | starting
  | registered (notified : Bool)
  | parked (notified : Bool)
  | returned
  deriving Repr, DecidableEq

def Waiter.notify : Waiter → Waiter
  | .registered _ => .registered true
  | .parked _ => .parked true
  | waiter => waiter

/-- A tracker: the count, the tokens that are still held, how many notifications are due, and the
waiters. -/
structure Tracker where
  active : Nat := 0
  tokens : List Bool := []
  due : Nat := 0
  waiters : List Waiter := []
  deriving Repr, DecidableEq

namespace Tracker

/-- A step that nothing else can come into. -/
inductive Step where
  | acquire
  | release (token : Nat)
  | notify
  | wait
  | register (waiter : Nat)
  | check (waiter : Nat)
  | wake (waiter : Nat)
  deriving Repr, DecidableEq

/-- The tracker after a step, if the step can be taken. -/
def step (tracker : Tracker) : Step → Option Tracker
  | .acquire =>
    some { tracker with active := tracker.active + 1, tokens := tracker.tokens ++ [true] }
  | .release token =>
    if tracker.tokens.getD token false then
      some { tracker with
        active := tracker.active - 1
        tokens := tracker.tokens.set token false
        due := if tracker.active = 1 then tracker.due + 1 else tracker.due }
    else none
  | .notify =>
    if 0 < tracker.due then
      some { tracker with due := tracker.due - 1, waiters := tracker.waiters.map Waiter.notify }
    else none
  | .wait => some { tracker with waiters := tracker.waiters ++ [.starting] }
  | .register waiter =>
    if tracker.waiters[waiter]? = some .starting then
      some { tracker with waiters := tracker.waiters.set waiter (.registered false) }
    else none
  | .check waiter =>
    match tracker.waiters[waiter]? with
    | some (.registered notified) =>
      some { tracker with
        waiters := tracker.waiters.set waiter
          (if tracker.active = 0 then .returned else .parked notified) }
    | _ => none
  | .wake waiter =>
    if tracker.waiters[waiter]? = some (.parked true) then
      some { tracker with waiters := tracker.waiters.set waiter .starting }
    else none

/-- The tracker after some steps, if they can be taken one after another. -/
def after (tracker : Tracker) (steps : List Step) : Option Tracker :=
  steps.foldlM step tracker

/-- The tracker after a step, unchanged if the step cannot be taken. -/
def attempt (tracker : Tracker) (step : Step) : Tracker :=
  (tracker.step step).getD tracker

/-- The tracker after a token is given up and the notification that may be due is made. -/
def releaseNow (tracker : Tracker) (token : Nat) : Tracker :=
  (tracker.attempt (.release token)).attempt .notify

/-- The tracker after a waiter went on as far as it can. -/
def poll (tracker : Tracker) (waiter : Nat) : Tracker :=
  ((tracker.attempt (.wake waiter)).attempt (.register waiter)).attempt (.check waiter)

def isDone (tracker : Tracker) (waiter : Nat) : Bool :=
  tracker.waiters[waiter]? == some .returned

end Tracker

end ApiReference.Server
