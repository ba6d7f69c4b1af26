import ApiReference.Decimal.Double

/-!
# JSON Values

Integers are kept apart from other numbers, as the formats that meet here read them differently.
The members of an object keep the order in which they were first written.
-/

namespace ApiReference.Json

open Decimal

/-- A JSON number: an integer, or a double if it is written with a fraction or an exponent, is
negative zero, or does not fit 64 bits. -/
inductive Number where
  | integer (value : Int)
  | double (value : Double)
  deriving Repr, DecidableEq

/-- A JSON value. -/
inductive Value where
  | null
  | flag (value : Bool)
  | number (value : Number)
  | text (value : String)
  | array (items : List Value)
  | object (members : List (String × Value))
  deriving Repr

namespace Value

def ofNat (n : Nat) : Value :=
  .number (.integer n)

/-- A text or `null`. -/
def ofText? : Option String → Value
  | some content => .text content
  | none => .null

def get? (value : Value) (key : String) : Option Value :=
  match value with
  | .object members => members.lookup key
  | _ => none

end Value

/-- The members with one of them set: in its place if the key is there, else at the end. -/
def putMember (key : String) (value : α) : List (String × α) → List (String × α)
  | [] => [(key, value)]
  | member :: rest =>
    if member.1 = key then (key, value) :: rest else member :: putMember key value rest

end ApiReference.Json
