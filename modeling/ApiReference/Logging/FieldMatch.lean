import ApiReference.Logging.Pattern

/-!
# Fields in Filters

A filter may ask for a field, and for its value: a truth value, a number, or a text that a pattern
describes.
-/

namespace ApiReference.Logging

open Text

/-- A field that an event or a span has to have, and what its value has to be. -/
structure FieldMatch where
  name : String
  value : Option String
  deriving Repr, DecidableEq

namespace FieldMatch

/-- A text without the sign at its front, if there is one. -/
def unsigned : List Char → List Char
  | '+' :: rest | '-' :: rest => rest
  | rest => rest

/-- Whether a text is nothing or an exponent. -/
def isExponent : List Char → Bool
  | [] => true
  | c :: rest =>
    (c == 'e' || c == 'E') && !(unsigned rest).isEmpty && (unsigned rest).all Char.isDigit

/-- Whether a text is a decimal number without a sign. -/
def isDecimal (text : List Char) : Bool :=
  let whole := text.takeWhile Char.isDigit
  match text.dropWhile Char.isDigit with
  | '.' :: rest =>
    !(whole ++ rest.takeWhile Char.isDigit).isEmpty && isExponent (rest.dropWhile Char.isDigit)
  | rest => !whole.isEmpty && isExponent rest

/-- Whether a text is the name of an infinity or of no number, in any case. -/
def isSpecialNumber (text : List Char) : Bool :=
  ["inf", "infinity", "nan"].contains (String.ofList (text.map Char.toLower))

/-- Whether a value is a truth value or a number, and so no pattern. -/
def isPlain (value : List Char) : Bool :=
  value == "true".toList || value == "false".toList || isDecimal (unsigned value) ||
    isSpecialNumber (unsigned value)

/-- The field that a text asks for.  What follows a second sign of equality does not count. -/
def ofText (text : List Char) : Except PatternError FieldMatch := do
  match splitAll '=' text with
  | name :: value :: _ =>
    if !isPlain value then Pattern.check value
    return ⟨String.ofList name, some (String.ofList value)⟩
  | pieces => return ⟨String.ofList pieces.flatten, none⟩

end FieldMatch

end ApiReference.Logging
