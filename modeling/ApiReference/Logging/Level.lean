import ApiReference.Text.Digits

/-!
# Levels

The levels of log events, and the thresholds that let events of a level and the more severe ones
through.
-/

namespace ApiReference.Logging

/-- How severe an event is. -/
inductive Level where
  | error
  | warn
  | info
  | debug
  | trace
  deriving Repr, DecidableEq

namespace Level

/-- The place of a level in the order from severe to verbose, from one. -/
def rank : Level → Nat
  | .error => 1
  | .warn => 2
  | .info => 3
  | .debug => 4
  | .trace => 5

def name : Level → String
  | .error => "ERROR"
  | .warn => "WARN"
  | .info => "INFO"
  | .debug => "DEBUG"
  | .trace => "TRACE"

end Level

/-- The rank of the most verbose events that pass; none pass at rank zero. -/
structure Threshold where
  rank : Nat
  deriving Repr, DecidableEq

namespace Threshold

/-- The threshold that everything passes. -/
def all : Threshold := ⟨5⟩

def admits (threshold : Threshold) (level : Level) : Bool :=
  level.rank ≤ threshold.rank

def names : List (List Char × Threshold) :=
  [("off".toList, ⟨0⟩), ("error".toList, ⟨1⟩), ("warn".toList, ⟨2⟩), ("info".toList, ⟨3⟩),
    ("debug".toList, ⟨4⟩), ("trace".toList, ⟨5⟩)]

/-- The threshold with a name in any case or with a number up to five. -/
def ofText? (text : List Char) : Option Threshold :=
  match Text.decimal? text with
  | some n => if n ≤ 5 then some ⟨n⟩ else none
  | none => names.lookup (text.map Char.toLower)

end Threshold

end ApiReference.Logging
