/-!
# Splitting Lists

A list is cut at its first separator, at all of them, or where two of them stand together.
-/

namespace ApiReference.Text

variable {α : Type} [DecidableEq α]

/-- What stands before and after the first separator, if there is one. -/
def splitFirst (separator : α) : List α → Option (List α × List α)
  | [] => none
  | a :: rest =>
    if a = separator then some ([], rest)
    else (splitFirst separator rest).map fun (before, after) ↦ (a :: before, after)

/-- The pieces between the separators, empty ones included. -/
def splitAll (separator : α) : List α → List (List α)
  | [] => [[]]
  | a :: rest =>
    if a = separator then [] :: splitAll separator rest
    else match splitAll separator rest with
      | [] => [[a]]
      | piece :: pieces => (a :: piece) :: pieces

/-- The pieces between pairs of separators, empty ones included.  Of a longer run of separators the
first two make a pair. -/
def splitPaired (separator : α) : List α → List (List α)
  | [] => [[]]
  | [a] => [[a]]
  | a :: b :: rest =>
    if a = separator ∧ b = separator then [] :: splitPaired separator rest
    else match splitPaired separator (b :: rest) with
      | [] => [[a]]
      | piece :: pieces => (a :: piece) :: pieces

/-- The list without a beginning that it has to have. -/
def dropBeginning? : List α → List α → Option (List α)
  | [], rest => some rest
  | _ :: _, [] => none
  | a :: beginning, b :: rest => if a = b then dropBeginning? beginning rest else none

end ApiReference.Text
