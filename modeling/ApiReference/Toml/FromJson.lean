import ApiReference.Decimal.Word
import ApiReference.Json.Tree
import ApiReference.Toml.DatetimeReader
import ApiReference.Toml.Value

/-!
# TOML Values from JSON Text

A JSON text spells a TOML value unless it holds `null`, an integer that does not fit 64 bits with a
sign, or a repeated key.  An object that begins with the key of a datetime is one.
-/

namespace ApiReference.Toml

open Decimal Decode Json

/-- What TOML values make of the parts of a JSON text. -/
def Value.builder : Builder Value where
  scalar
    | .null => .error (.type .nothing "any valid TOML value")
    | .flag value => .ok (.flag value)
    | .number (.integer value) =>
      if value < Word.signedLimit then .ok (.integer value)
      else .error (.other "u64 value was too large")
    | .number (.double value) => .ok (.double value)
    | .text value => .ok (.text value)
  list := .array
  table entries := .table (Table.ofEntries entries)
  permit entries key :=
    if (entries.lookup key).isSome then .error (.other ("duplicate key: `" ++ key ++ "`"))
    else .ok ()
  special key :=
    if key = "$__toml_private_datetime" then
      some ("string containing a datetime", fun text ↦
        match Datetime.ofText text with
        | .ok moment => .ok (.datetime moment)
        | .error refusal => .error (.other refusal.message))
    else none

def Value.readJson (text : String) : Except Fault Value :=
  Value.builder.read text

end ApiReference.Toml
