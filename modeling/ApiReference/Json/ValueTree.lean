import ApiReference.Decode.Tree
import ApiReference.Json.Tree

/-!
# JSON Values as Trees

A JSON value that was read before has no places any more, so a refusal is a mismatch alone.  A
choice is its name, or an object of the name and `null`.
-/

namespace ApiReference.Json

open Decode

/-- The outermost layer of a value, the members of an object sorted by key. -/
def Value.view : Value → View Value
  | .null => .nothing
  | .flag value => .flag value
  | .number (.integer value) => .integer value
  | .number (.double value) => .double value
  | .text value => .text value
  | .array items => .list items
  | .object members => .table (members.mergeSort fun a b ↦ !decide (b.1 < a.1))

def Value.choose {α : Type} (options : List (String × α)) (name : String) : Except Refusal α :=
  (Decode.choose options name).mapError .here

def Value.choice {α : Type} (options : List (String × α)) : Value → Except Refusal α
  | .text name => choose options name
  | .object [(name, payload)] => do
    let value ← choose options name
    match payload with
    | .null => .ok value
    | payload => .error (.here (.type payload.view.found "unit"))
  | .object _ => .error (.here (.value .table "map with a single key"))
  | value => .error (.here (.type value.view.found "string or map"))

instance : DataTree Value where
  view := Value.view
  choice := Value.choice
  closed := true

def refusalMessage (refusal : Refusal) : String :=
  (Cause.mismatch refusal.what).message

end ApiReference.Json
