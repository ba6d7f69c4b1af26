import ApiReference.Logging.Log
import ApiReference.Server.Config
import ApiReference.Text.Split

/-!
# Failure Reports

A report says what failed and, indented below, what caused it.  Several causes are numbered.
-/

namespace ApiReference.CommandLine

open Text

/-- What failed and its causes, each the cause of the one before. -/
structure Report where
  message : String
  causes : List String := []
  deriving Repr, DecidableEq

namespace Report

/-- The report of an error and the cause behind it. -/
def ofError (message : String) (source? : Option String) : Report :=
  ⟨message, source?.toList⟩

/-- The report of what was being done when another failure was reported. -/
def within (report : Report) (activity : String) : Report :=
  ⟨activity, report.message :: report.causes⟩

/-- The report of refused settings. -/
def ofSettings (error : Settings.Error) : Report :=
  ofError error.message error.source?

def ofLogging (error : Logging.Error) : Report :=
  ofError error.message none

def ofServer (error : Server.Error) : Report :=
  ofError error.message error.source?

/-- A text with an indentation before each line but the first. -/
def indented (indentation text : String) : String :=
  String.intercalate ("\n" ++ indentation) ((splitAll '\n' text.toList).map String.ofList)

def numbered (index : Nat) (cause : String) : String :=
  let number := toString index
  String.ofList (List.replicate (5 - number.length) ' ') ++ number ++ ": " ++
    indented "       " cause

def causeLines (causes : List String) : List String :=
  match causes with
  | [cause] => ["    " ++ indented "    " cause]
  | causes => causes.mapIdx numbered

def text (report : Report) : String :=
  "Error: " ++ report.message ++
    (if report.causes.isEmpty then ""
    else "\n\nCaused by:\n" ++ String.intercalate "\n" (causeLines report.causes)) ++ "\n"

end Report

end ApiReference.CommandLine
