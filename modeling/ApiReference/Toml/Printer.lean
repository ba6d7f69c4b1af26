import ApiReference.Text.Digits

/-!
# Writing TOML Text

A document is written section by section, with an empty line before each header but the first.  A
string is written in the style that needs the fewest escapes and reads best: in double quotes if
nothing in it needs an escape, then in single quotes, then over several lines.
-/

namespace ApiReference.Toml

open Text

/-- How a string is written. -/
inductive Style where
  | basic
  | literal
  | longBasic
  | longLiteral
  deriving Repr, DecidableEq

/-- Whether a character can only be written with an escape. -/
def isControl (c : Char) : Bool :=
  (c.toNat < 0x20 && c != '\t' && c != '\n') || c.toNat == 0x7f

/-- The length of the longest run of a character, `run` of them standing before the text. -/
def longestRun (c : Char) (run : Nat) : List Char → Nat
  | [] => run
  | d :: rest => if d = c then longestRun c (run + 1) rest else max run (longestRun c 0 rest)

def Style.of (cs : List Char) : Style :=
  let plain := !cs.any isControl
  let oneLine := !cs.contains '\n'
  if plain && oneLine && !cs.contains '\\' && !cs.contains '"' then .basic
  else if plain && oneLine && !cs.contains '\'' then .literal
  else if plain && !cs.contains '\\' && longestRun '"' 0 cs ≤ 2 then .longBasic
  else if plain && longestRun '\'' 0 cs ≤ 2 then .longLiteral
  else if oneLine then .basic
  else .longBasic

/-- How a character other than a quote is written in double quotes. -/
def escapeChar (long : Bool) (c : Char) : List Char :=
  match c with
  | '\\' => ['\\', '\\']
  | '\x08' => ['\\', 'b']
  | '\t' => ['\\', 't']
  | '\n' => if long then ['\n'] else ['\\', 'n']
  | '\x0c' => ['\\', 'f']
  | '\r' => ['\\', 'r']
  | c =>
    if c.toNat < 0x20 || c.toNat == 0x7f then
      ['\\', 'u', '0', '0', upperHexDigit (c.toNat / 16), upperHexDigit (c.toNat % 16)]
    else [c]

/-- The contents of a string in double quotes.  Over several lines only every third quote of a run
is escaped; `run` quotes stand before the text. -/
def escapeFrom (long : Bool) (run : Nat) : List Char → List Char
  | [] => []
  | c :: rest =>
    if c = '"' then
      if long && run < 2 then '"' :: escapeFrom long (run + 1) rest
      else '\\' :: '"' :: escapeFrom long 0 rest
    else escapeChar long c ++ escapeFrom long 0 rest

/-- The quotes around a string, with a line end after those that open a string of several lines. -/
def enclose (quotes : List Char) (cs body : List Char) : List Char :=
  quotes ++ (if cs.contains '\n' then ['\n'] else []) ++ body ++ quotes

def stringText (cs : List Char) : List Char :=
  match Style.of cs with
  | .basic => '"' :: escapeFrom false 0 cs ++ ['"']
  | .literal => '\'' :: cs ++ ['\'']
  | .longBasic => enclose ['"', '"', '"'] cs (escapeFrom true 0 cs)
  | .longLiteral => enclose ['\'', '\'', '\''] cs cs

/-- A value on one line. -/
inductive Plain where
  | text (value : String)
  | integer (value : Int)
  | flag (value : Bool)
  | emptyArray
  deriving Repr, DecidableEq

def Plain.print : Plain → List Char
  | .text value => stringText value.toList
  | .integer value => (toString value).toList
  | .flag true => ['t', 'r', 'u', 'e']
  | .flag false => ['f', 'a', 'l', 's', 'e']
  | .emptyArray => ['[', ']']

/-- The pairs under one header, with keys that need no quotes. -/
structure Block where
  path : List String
  repeated : Bool
  pairs : List (String × Plain)
  deriving Repr, DecidableEq

def Block.header (block : Block) : List Char :=
  let path := (String.intercalate "." block.path).toList
  if block.repeated then '[' :: '[' :: path ++ [']', ']', '\n'] else '[' :: path ++ [']', '\n']

def pairText (pair : String × Plain) : List Char :=
  pair.1.toList ++ [' ', '=', ' '] ++ pair.2.print ++ ['\n']

def Block.print (block : Block) : List Char :=
  block.header ++ block.pairs.flatMap pairText

def printBlocks (blocks : List Block) : List Char :=
  ['\n'].intercalate (blocks.map Block.print)

end ApiReference.Toml
