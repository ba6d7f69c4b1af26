import ApiReference.Decode.Tree
import ApiReference.Json.Tree
import ApiReference.Toml.Value

/-!
# TOML Values as Trees

A value of a layer is read leniently: a datetime is its text.  A value that a document spells is
read as it stands: a datetime is no text, and items that a record has no member for are passed over.
-/

namespace ApiReference.Toml

open Decimal Decode

/-- Doubles in messages have no exponent. -/
def layout : Layout where
  positional _ := true

/-- The outermost layer of a value, a datetime being its text. -/
def Value.view : Value → View Value
  | .text value => .text value
  | .integer value => .integer value
  | .double value => .double value
  | .flag value => .flag value
  | .datetime value => .text value.text
  | .array items => .list items
  | .table entries => .table entries

/-- What a value is called where a choice holds nothing. -/
def Value.kindName : Value → String
  | .text _ => "string"
  | .integer _ => "integer"
  | .double _ => "float"
  | .flag _ => "boolean"
  | .datetime _ => "datetime"
  | .array _ => "array"
  | .table _ => "table"

/-- Accepts an empty container where a choice holds nothing. -/
def Value.nothing : Value → Except Refusal Unit
  | .array [] => .ok ()
  | .array _ => .error (.here (.other "expected empty array"))
  | .table [] => .ok ()
  | .table _ => .error (.here (.other "expected empty table"))
  | value => .error (.here (.other ("expected table, found " ++ value.kindName)))

/-- The choice that a value names: a text, or a table of the name and an empty container. -/
def Value.choice {α : Type} (options : List (String × α)) : Value → Except Refusal α
  | .text name => (choose options name).mapError .here
  | .table [(name, payload)] => do
    let value ← (choose options name).mapError .here
    payload.nothing
    return value
  | .table [] => .error (.here (.other "wanted exactly 1 element, found 0 elements"))
  | .table _ => .error (.here (.other "wanted exactly 1 element, more than 1 element"))
  | _ => .error (.here (.type .unit "string only"))

instance : DataTree Value where
  view := Value.view
  choice := Value.choice
  closed := true

/-- The wording of a refusal: what is wrong, and the path of keys on a line of its own. -/
def refusalMessage (refusal : Refusal) : String :=
  refusal.what.message (Double.text layout) ++ "\n" ++
    if refusal.path.isEmpty then "" else "in `" ++ String.intercalate "." refusal.path ++ "`\n"

/-- A value as it stands in a document. -/
structure Written where
  value : Value

/-- The outermost layer of a value of a document.  A datetime is no text; what it is taken for
instead is refused everywhere. -/
def Written.view (written : Written) : View Written :=
  match written.value with
  | .text value => .text value
  | .integer value => .integer value
  | .double value => .double value
  | .flag value => .flag value
  | .datetime _ => .double .nan
  | .array items => .list (items.map .mk)
  | .table entries => .table (entries.map fun (key, value) ↦ (key, .mk value))

instance : DataTree Written where
  view := Written.view
  choice options written := written.value.choice options
  closed := false

end ApiReference.Toml
