import ApiReference.Json.Value
import ApiReference.Text.Quoted
import ApiReference.Toml.Value

/-!
# Readiness

A service is ready while a flag is set and all of its checks pass.  Copies of a readiness probe
share the flag, and each has its own list of checks.
-/

namespace ApiReference.Server

open Json Text

/-- A named check and whether it passes. -/
structure Check where
  name : String
  passes : Bool
  deriving Repr, DecidableEq

/-- A readiness report: each name with the result of its last check, in the order of the names. -/
structure ReadinessReport where
  ready : Bool
  results : List (String × Bool)
  deriving Repr, DecidableEq

namespace ReadinessReport

def result? (report : ReadinessReport) (name : String) : Option Bool :=
  report.results.lookup name

def toJson (report : ReadinessReport) : Value :=
  .object
    [("ready", .flag report.ready),
      ("checks", .object (report.results.map fun (name, passes) ↦ (name, .flag passes)))]

end ReadinessReport

/-- A readiness probe: the flag and the checks in the order in which they were added. -/
structure Readiness where
  flag : Bool := true
  checks : List Check := []
  deriving Repr, DecidableEq

namespace Readiness

def addCheck (readiness : Readiness) (check : Check) : Readiness :=
  { readiness with checks := readiness.checks ++ [check] }

def isReady (readiness : Readiness) : Bool :=
  readiness.flag && readiness.checks.all Check.passes

/-- The results by name.  Of checks with one name the last counts. -/
def results (readiness : Readiness) : List (String × Bool) :=
  Toml.Table.ofEntries (readiness.checks.map fun check ↦ (check.name, check.passes))

/-- The report of a probe. -/
def report (readiness : Readiness) : ReadinessReport where
  ready := readiness.flag && readiness.results.all Prod.snd
  results := readiness.results

/-- The probe in words, for diagnosis. -/
def describe (readiness : Readiness) : String :=
  "ReadinessCheck \x7b checks: [" ++
    String.intercalate ", " (readiness.checks.map fun check ↦ quoted check.name) ++
    "], ready_override: " ++ (if readiness.flag then "true" else "false") ++ " \x7d"

end Readiness

/-- Copies of one probe: the flag that they share and the checks of each. -/
structure ReadinessFamily where
  flag : Bool := true
  members : List (List Check) := [[]]
  deriving Repr, DecidableEq

namespace ReadinessFamily

def member? (family : ReadinessFamily) (index : Nat) : Option Readiness :=
  family.members[index]?.map fun checks ↦ ⟨family.flag, checks⟩

def toList (family : ReadinessFamily) : List Readiness :=
  family.members.map fun checks ↦ ⟨family.flag, checks⟩

/-- A step of a family. -/
inductive Step where
  | addCheck (index : Nat) (check : Check)
  | setReady (ready : Bool)
  | clone (index : Nat)
  deriving Repr, DecidableEq

/-- The family after a step.  Steps of members that there are not change nothing. -/
def step (family : ReadinessFamily) : Step → ReadinessFamily
  | .addCheck index check =>
    { family with members := family.members.modify index (· ++ [check]) }
  | .setReady ready => { family with flag := ready }
  | .clone index => { family with members := family.members ++ family.members[index]?.toList }

end ReadinessFamily

end ApiReference.Server
