/-!
# Shutdown Signals

A signal is shared by its handles.  Triggering any handle triggers the signal for good.  A waiter is
done when it is polled after the trigger, or after the last handle is gone, since then nothing can
trigger the signal any more.
-/

namespace ApiReference.Server

/-- A signal: whether it is triggered, which of its handles are alive, and which of its waiters are
done. -/
structure Signal where
  triggered : Bool := false
  handles : List Bool := [true]
  waiters : List Bool := []
  deriving Repr, DecidableEq

namespace Signal

def isAlive (signal : Signal) (handle : Nat) : Bool :=
  signal.handles.getD handle false

/-- What a handle says, if it is alive. -/
def isShutdown? (signal : Signal) (handle : Nat) : Option Bool :=
  if signal.isAlive handle then some signal.triggered else none

/-- Whether a waiter that is polled is done. -/
def isOver (signal : Signal) : Bool :=
  signal.triggered || !signal.handles.contains true

/-- A step of a signal. -/
inductive Step where
  | clone (handle : Nat)
  | drop (handle : Nat)
  | trigger (handle : Nat)
  | receive (handle : Nat)
  | poll (waiter : Nat)
  deriving Repr, DecidableEq

/-- The signal after a step.  Steps through handles that are not alive change nothing. -/
def step (signal : Signal) : Step → Signal
  | .clone handle =>
    if signal.isAlive handle then { signal with handles := signal.handles ++ [true] } else signal
  | .drop handle => { signal with handles := signal.handles.set handle false }
  | .trigger handle =>
    if signal.isAlive handle then { signal with triggered := true } else signal
  | .receive handle =>
    if signal.isAlive handle then { signal with waiters := signal.waiters ++ [false] } else signal
  | .poll waiter =>
    if signal.isOver then { signal with waiters := signal.waiters.set waiter true } else signal

end Signal

end ApiReference.Server
