/-!
# Runs of Code Points

Properties of characters are kept as lists of runs of code points, and case mappings as runs that
are shifted by one distance.
-/

namespace ApiReference.Text

/-- A run of code points, both ends included. -/
structure Span where
  first : Nat
  last : Nat
  deriving Repr, DecidableEq

/-- Whether a character lies in one of the runs. -/
def Span.covers (spans : List Span) (c : Char) : Bool :=
  spans.any fun span ↦ span.first ≤ c.toNat && c.toNat ≤ span.last

/-- Every `step`-th code point from `first` to `last`, each moved by `distance`. -/
structure Shift where
  first : Nat
  last : Nat
  step : Nat
  distance : Int
  deriving Repr, DecidableEq

/-- Whether a character is one of those that the run moves. -/
def Shift.moves (shift : Shift) (c : Char) : Bool :=
  shift.first ≤ c.toNat && c.toNat ≤ shift.last && (c.toNat - shift.first) % shift.step == 0

/-- The character that the first fitting run makes of a character, itself if none fits. -/
def Shift.apply (shifts : List Shift) (c : Char) : Char :=
  match shifts.find? fun shift ↦ shift.moves c with
  | some shift => Char.ofNat (c.toNat + shift.distance).toNat
  | none => c

end ApiReference.Text
