import ApiReference.Decimal.Double
import ApiReference.Toml.Datetime

/-!
# TOML Values

The entries of a table have different keys and stand in ascending order of them, so that two tables
with the same entries are equal.
-/

namespace ApiReference.Toml

open Decimal

/-- A TOML value. -/
inductive Value where
  | text (value : String)
  | integer (value : Int)
  | double (value : Double)
  | flag (value : Bool)
  | datetime (value : Datetime)
  | array (items : List Value)
  | table (entries : List (String × Value))
  deriving Repr

/-- Entries in ascending order of their keys. -/
abbrev Table (α : Type) := List (String × α)

namespace Table

variable {α : Type}

def get? (table : Table α) (key : String) : Option α :=
  table.lookup key

def insert (key : String) (value : α) : Table α → Table α
  | [] => [(key, value)]
  | entry :: rest =>
    if key < entry.1 then (key, value) :: entry :: rest
    else if key = entry.1 then (key, value) :: rest
    else entry :: insert key value rest

/-- The table of some entries.  Of a repeated key the last value counts. -/
def ofEntries (entries : List (String × α)) : Table α :=
  entries.foldl (fun table entry ↦ table.insert entry.1 entry.2) []

end Table

mutual

/-- A value with a layer over it.  Where both are tables they are merged key by key, and elsewhere
the layer takes the place of the value. -/
def Value.merge (base : Value) : Value → Value
  | .table layer =>
    match base with
    | .table entries => .table (mergeEntries entries layer)
    | _ => .table layer
  | .text value => .text value
  | .integer value => .integer value
  | .double value => .double value
  | .flag value => .flag value
  | .datetime value => .datetime value
  | .array items => .array items

/-- The entries of a table with those of a layer over them. -/
def mergeEntries (base : Table Value) : List (String × Value) → Table Value
  | [] => base
  | (key, value) :: rest =>
    mergeEntries (base.insert key (mergeEntry (base.get? key) value)) rest

/-- The value of one key with that of a layer over it. -/
def mergeEntry (base? : Option Value) (value : Value) : Value :=
  match base? with
  | some base => base.merge value
  | none => value

end

end ApiReference.Toml
