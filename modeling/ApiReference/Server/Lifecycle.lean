import ApiReference.Server.Connections
import ApiReference.Server.Routes

/-!
# From Listening to Stopping

A run accepts connections until its shutdown signal is triggered.  Then it clears the readiness
flag, gives up its listener and waits until every connection is closed or the time for that is over.
Each step is one that nothing else can come into, and any step that can be taken may be taken next.
-/

namespace ApiReference.Server

open Http

/-- How far a run has come. -/
inductive Phase where
  | accepting
  | stopping
  | cleared
  | draining
  | returned
  deriving Repr, DecidableEq

/-- A run: the site that it serves, how far it has come, whether its signal is triggered and whether
the time for closing connections is over.  The tokens of the tracker are the accepted connections.
-/
structure Run where
  site : Site
  phase : Phase := .accepting
  triggered : Bool := false
  timeIsOver : Bool := false
  tracker : Tracker := {}
  deriving Repr, DecidableEq

namespace Run

/-- A step of a run, of one of its connections, or of its surroundings. -/
inductive Step where
  | trigger
  | accept
  | request (connection : Nat) (method : Method) (uri : Uri)
  | close (connection : Nat)
  | notify
  | stop
  | clearReadiness
  | dropListener
  | register
  | check
  | wake
  | endTime
  | finish
  deriving Repr, DecidableEq

/-- Whether an accepted connection is still open. -/
def isOpen (run : Run) (connection : Nat) : Bool :=
  run.tracker.tokens.getD connection false

def isListening (run : Run) : Bool :=
  run.phase = .accepting ∨ run.phase = .stopping ∨ run.phase = .cleared

/-- Whether the wait for the connections is over. -/
def isDrained (run : Run) : Bool :=
  run.tracker.isDone 0

def track (run : Run) (step : Tracker.Step) : Option Run :=
  (run.tracker.step step).map fun tracker ↦ { run with tracker }

/-- The run after a step, if the step can be taken. -/
def step (run : Run) : Step → Option Run
  | .trigger => some { run with triggered := true }
  | .accept => if run.phase = .accepting then run.track .acquire else none
  | .request connection _ _ => if run.isOpen connection then some run else none
  | .close connection => run.track (.release connection)
  | .notify => run.track .notify
  | .stop =>
    if run.phase = .accepting ∧ run.triggered then some { run with phase := .stopping } else none
  | .clearReadiness =>
    if run.phase = .stopping then
      some { run with phase := .cleared, site := run.site.setReady false }
    else none
  | .dropListener =>
    if run.phase = .cleared then
      ({ run with phase := .draining } : Run).track .wait
    else none
  | .register => if run.phase = .draining then run.track (.register 0) else none
  | .check => if run.phase = .draining then run.track (.check 0) else none
  | .wake => if run.phase = .draining then run.track (.wake 0) else none
  | .endTime => if run.phase = .draining then some { run with timeIsOver := true } else none
  | .finish =>
    if run.phase = .draining ∧ (run.isDrained ∨ run.timeIsOver) then
      some { run with phase := .returned }
    else none

/-- The run after some steps, if they can be taken one after another. -/
def after (run : Run) (steps : List Step) : Option Run :=
  steps.foldlM step run

/-- The steps of a run whose connections are closed when its signal is triggered. -/
def quietEnd : List Step :=
  [.trigger, .stop, .clearReadiness, .dropListener, .register, .check, .finish]

end Run

end ApiReference.Server
