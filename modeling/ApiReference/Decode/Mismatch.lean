import ApiReference.Decimal.Shortest
import ApiReference.Text.Quoted

/-!
# Mismatches

A mismatch says why well-formed data is not a value of the wanted type: what was found and what
was expected, or which name is unknown, missing or repeated.
-/

namespace ApiReference.Decode

open Decimal Text

/-- What was found where something else was expected. -/
inductive Found where
  | nothing
  | flag (value : Bool)
  | integer (value : Int)
  | double (value : Double)
  | text (value : String)
  | list
  | table
  | unit
  deriving Repr, DecidableEq

/-- Why well-formed data is not a value of the wanted type. -/
inductive Mismatch where
  | type (found : Found) (expected : String)
  | value (found : Found) (expected : String)
  | length (count : Nat) (expected : String)
  | variant (name : String) (known : List String)
  | unknownField (name : String) (known : List String)
  | missingField (name : String)
  | duplicateField (name : String)
  | other (text : String)
  deriving Repr, DecidableEq

/-- What was found, in words, with the given text for a double. -/
def Found.describe (doubleText : Double → String) : Found → String
  | .nothing => "null"
  | .flag value => "boolean `" ++ (if value then "true" else "false") ++ "`"
  | .integer value => "integer `" ++ toString value ++ "`"
  | .double value => "floating point `" ++ doubleText value ++ "`"
  | .text value => "string " ++ quoted value
  | .list => "sequence"
  | .table => "map"
  | .unit => "unit variant"

/-- The known names in words: one, two joined by "or", or a list after "one of". -/
def oneOf (known : List String) : String :=
  match known.map fun name ↦ "`" ++ name ++ "`" with
  | [] => ""
  | [a] => a
  | [a, b] => a ++ " or " ++ b
  | names => "one of " ++ String.intercalate ", " names

/-- The wording of a mismatch, with the given text for a double. -/
def Mismatch.message (doubleText : Double → String) : Mismatch → String
  | .type found expected =>
    "invalid type: " ++ found.describe doubleText ++ ", expected " ++ expected
  | .value found expected =>
    "invalid value: " ++ found.describe doubleText ++ ", expected " ++ expected
  | .length count expected => "invalid length " ++ toString count ++ ", expected " ++ expected
  | .variant name known => "unknown variant `" ++ name ++ "`, expected " ++ oneOf known
  | .unknownField name known => "unknown field `" ++ name ++ "`, expected " ++ oneOf known
  | .missingField name => "missing field `" ++ name ++ "`"
  | .duplicateField name => "duplicate field `" ++ name ++ "`"
  | .other text => text

def choose (options : List (String × α)) (name : String) :
    Except Mismatch α :=
  match options.lookup name with
  | some value => .ok value
  | none => .error (.variant name (options.map Prod.fst))

end ApiReference.Decode
