import ApiReference.Decimal.Shortest
import ApiReference.Json.Value
import ApiReference.Text.Digits

/-!
# Compact JSON Text

No blanks are written.  In strings the quote, the backslash and the control characters are escaped,
with the short forms where JSON has them, and every other character stands as it is.
-/

namespace ApiReference.Json

open Decimal Text

/-- Doubles are positional when their decimal exponent lies between -5 and 15. -/
def layout : Layout where
  positional leading := -5 ≤ leading && leading ≤ 15

def escapeChar (c : Char) : List Char :=
  match c with
  | '"' => ['\\', '"']
  | '\\' => ['\\', '\\']
  | '\x08' => ['\\', 'b']
  | '\x0c' => ['\\', 'f']
  | '\n' => ['\\', 'n']
  | '\r' => ['\\', 'r']
  | '\t' => ['\\', 't']
  | c =>
    if c.toNat < 0x20 then
      ['\\', 'u', '0', '0', lowerHexDigit (c.toNat / 16), lowerHexDigit (c.toNat % 16)]
    else [c]

def stringText (cs : List Char) : List Char :=
  '"' :: cs.flatMap escapeChar ++ ['"']

def Number.print : Number → List Char
  | .integer value => (toString value).toList
  | .double value => (value.text layout).toList

mutual

def Value.print : Value → List Char
  | .null => ['n', 'u', 'l', 'l']
  | .flag true => ['t', 'r', 'u', 'e']
  | .flag false => ['f', 'a', 'l', 's', 'e']
  | .number value => value.print
  | .text value => stringText value.toList
  | .array items => '[' :: printItems items ++ [']']
  | .object members => '\x7b' :: printMembers members ++ ['\x7d']

def printItems : List Value → List Char
  | [] => []
  | [item] => item.print
  | item :: next :: rest => item.print ++ ',' :: printItems (next :: rest)

def printMembers : List (String × Value) → List Char
  | [] => []
  | [(key, value)] => stringText key.toList ++ ':' :: value.print
  | (key, value) :: next :: rest =>
    stringText key.toList ++ ':' :: value.print ++ ',' :: printMembers (next :: rest)

end

def Value.toText (value : Value) : String :=
  String.ofList value.print

end ApiReference.Json
