import ApiReference.Decimal.Word
import ApiReference.Decode.Mismatch
import ApiReference.Json.Printer
import ApiReference.Text.Split
import ApiReference.Text.Utf8

/-!
# Faults in JSON Text

A fault is a break of the grammar or a mismatch, and the place where it was noticed.  Places are
counted in lines and in bytes within the line.
-/

namespace ApiReference.Json

open Decode Text

/-- How a text breaks the grammar. -/
inductive Malformed where
  | endInValue
  | endInList
  | endInObject
  | endInString
  | expectedColon
  | expectedCommaOrBracket
  | expectedCommaOrBrace
  | expectedWord
  | expectedValue
  | invalidEscape
  | invalidNumber
  | numberOutOfRange
  | loneSurrogate
  | unfinishedPair
  | keyNotText
  | controlCharacter
  | trailingComma
  | trailingCharacters
  | tooDeep
  deriving Repr, DecidableEq

def Malformed.message : Malformed → String
  | .endInValue => "EOF while parsing a value"
  | .endInList => "EOF while parsing a list"
  | .endInObject => "EOF while parsing an object"
  | .endInString => "EOF while parsing a string"
  | .expectedColon => "expected `:`"
  | .expectedCommaOrBracket => "expected `,` or `]`"
  | .expectedCommaOrBrace => "expected `,` or `\x7d`"
  | .expectedWord => "expected ident"
  | .expectedValue => "expected value"
  | .invalidEscape => "invalid escape"
  | .invalidNumber => "invalid number"
  | .numberOutOfRange => "number out of range"
  | .loneSurrogate => "lone leading surrogate in hex escape"
  | .unfinishedPair => "unexpected end of hex escape"
  | .keyNotText => "key must be a string"
  | .controlCharacter =>
    "control character (\\u0000-\\u001F) found while parsing a string"
  | .trailingComma => "trailing comma"
  | .trailingCharacters => "trailing characters"
  | .tooDeep => "recursion limit exceeded"

/-- Whether the text ended too early. -/
def Malformed.isEnd : Malformed → Bool
  | .endInValue | .endInList | .endInObject | .endInString => true
  | _ => false

/-- What is wrong. -/
inductive Cause where
  | malformed (what : Malformed)
  | mismatch (what : Mismatch)
  deriving Repr, DecidableEq

/-- A line, from one, and how many bytes of it come before. -/
structure Place where
  line : Nat
  column : Nat
  deriving Repr, DecidableEq

def Place.after (bytes : List UInt8) : Place where
  line := 1 + bytes.count 0x0a
  column := (bytes.reverse.takeWhile (· != 0x0a)).length

/-- What is wrong with a JSON text, and where if that is known. -/
structure Fault where
  cause : Cause
  place : Option Place
  deriving Repr, DecidableEq

/-- The three sorts of faults. -/
inductive Fault.Sort where
  | grammar
  | data
  | ended
  deriving Repr, DecidableEq

def Fault.sort (fault : Fault) : Fault.Sort :=
  match fault.cause with
  | .malformed what => if what.isEnd then .ended else .grammar
  | .mismatch _ => .data

def Cause.message : Cause → String
  | .malformed what => what.message
  | .mismatch what => what.message (Decimal.Double.text layout)

/-- The wording of a fault, with its place. -/
def Fault.message (fault : Fault) : String :=
  match fault.place with
  | none => fault.cause.message
  | some place =>
    fault.cause.message ++ " at line " ++ toString place.line ++ " column " ++
      toString place.column

/-! ## Places in the wording -/

/-- What stands before and after the last occurrence of a pattern. -/
def splitLast (pattern : List Char) : List Char → Option (List Char × List Char)
  | [] => none
  | c :: rest =>
    match splitLast pattern rest with
    | some (before, after) => some (c :: before, after)
    | none => (dropBeginning? pattern (c :: rest)).map fun after ↦ ([], after)

/-- A number of at most 64 bits in decimal digits. -/
def wordOf? (digits : List Char) : Option Nat :=
  let value := decimalValue digits
  if digits.isEmpty || !digits.all Char.isDigit || Decimal.Word.limit ≤ value then none
  else some value

/-- The place that a wording ends in, and the wording before it. -/
def statedPlace? (message : List Char) : Option (List Char × Place) := do
  let (before, after) ← splitLast " at line ".toList message
  let line ← wordOf? (after.takeWhile Char.isDigit)
  let columnText ← dropBeginning? " column ".toList (after.dropWhile Char.isDigit)
  let column ← wordOf? columnText
  return (before, ⟨line, column⟩)

end ApiReference.Json
