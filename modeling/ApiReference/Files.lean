import ApiReference.Text.Case
import ApiReference.Text.Split

/-!
# Files by Path

What is known to lie at the places of a file system without links, and the one of its directories
that a program works in.  A path leads to a place from the root or from that directory, and may step
through `.` and `..`.
-/

namespace ApiReference

open Text

/-- A file or a directory. -/
inductive Node where
  | file (bytes : List UInt8)
  | directory
  deriving Repr, DecidableEq

/-- A place by the names that lead to it from the root, the last one first. -/
abbrev Place := List String

/-- Files and directories by their places.  The directories above an entry are there, and so are the
working directory and those above it. -/
structure Files where
  directory : Place := []
  entries : List (Place × Node) := []
  deriving Repr, DecidableEq

namespace Files

/-- The steps of a path, empty ones included. -/
def steps (path : String) : List String :=
  (splitAll '/' path.toList).map String.ofList

/-- Where a step leads.  Above the root is the root. -/
def move (here : Place) (step : String) : Place :=
  if step = "" ∨ step = "." then here else if step = ".." then here.tail else step :: here

/-- Where a path begins: at the root or in a directory. -/
def beginning (directory : Place) (path : String) : Place :=
  if path.toList.head? = some '/' then [] else directory

/-- The files at some paths, for a program that works in a directory. -/
def within (directory : Place) (entries : List (String × Node)) : Files where
  directory
  entries := entries.map fun entry ↦
    ((steps entry.1).foldl move (beginning directory entry.1), entry.2)

/-- The files at some paths, for a program that works in a directory of its own. -/
def ofPaths (entries : List (String × Node)) : Files :=
  within ["docs", "srv"] entries

/-- What lies at a place. -/
def at? (files : Files) (place : Place) : Option Node :=
  if place.isSuffixOf files.directory then some .directory
  else match files.entries.lookup place with
    | some node => some node
    | none =>
      if files.entries.any fun entry ↦ place.isSuffixOf entry.1 then some .directory else none

/-- What lies at the end of some steps from a place.  Every step starts from a directory. -/
def walk (files : Files) : List String → Place → Option Node
  | [], here => files.at? here
  | step :: rest, here =>
    match files.at? here with
    | some .directory => walk files rest (move here step)
    | _ => none

def find? (files : Files) (path : String) : Option Node :=
  if path.isEmpty then none else walk files (steps path) (beginning files.directory path)

def file? (files : Files) (place : Place) : Option (List UInt8) :=
  match files.at? place with
  | some (.file bytes) => some bytes
  | _ => none

/-- The file of a name that is nearest to a directory, in it or above it. -/
def nearest? (files : Files) (name : String) : Place → Option (List UInt8)
  | [] => files.file? [name]
  | step :: above => (files.file? (name :: step :: above)).or (nearest? files name above)

/-- What stands after the last point of a path's last step, in lower case. -/
def extension? (path : String) : Option String := do
  let last ← ((steps path).filter fun step ↦ step != "" && step != ".").getLast?
  if last = ".." then none
  else
    let (after, before) ← splitFirst '.' last.toList.reverse
    if before.isEmpty then none else some (lower (String.ofList after.reverse))

end Files

end ApiReference
