import ApiReference.Text.Blank
import ApiReference.Text.Digits

/-!
# Atoms of Patterns

An atom is the smallest part of a pattern: a character, a class of characters or an assertion.
Flags in the pattern say how atoms are read.  Atoms that need a table of letters, digits or cases
beyond ASCII are refused.
-/

namespace ApiReference.Logging.Pattern

open Text

/-- The flags in force at a place of a pattern: whether case is ignored, whether characters of all
scripts count and not only single bytes, and whether blanks and comments are passed over. -/
structure Mode where
  foldsCase : Bool := false
  unicode : Bool := true
  spaced : Bool := false
  deriving Repr, DecidableEq

/-- A reader that takes its part from the front of the text, or fails. -/
abbrev Reader := StateT (List Char) Option

/-- The text after the blanks and comments at its front.  A comment goes on to the end of the line,
and `comment` says whether the text begins in one. -/
def dropBlanks (comment : Bool) : List Char → List Char
  | [] => []
  | c :: rest =>
    if comment then dropBlanks (c != '\n') rest
    else if isBlankChar c then dropBlanks false rest
    else if c = '#' then dropBlanks true rest
    else c :: rest

/-- Passes over blanks and comments if they do not count. -/
def skipBlanks (mode : Mode) : Reader Unit :=
  modify fun text ↦ if mode.spaced then dropBlanks false text else text

def next : Reader Char := do
  match ← get with
  | c :: rest =>
    set rest
    return c
  | [] => failure

def expect (c : Char) : Reader Unit := do
  if (← next) != c then failure

/-- An atom.  A character may be written as a byte, and a shorthand may stand for the characters
that it does not name. -/
inductive Atom where
  | character (c : Char) (byte : Bool)
  | shorthand (negated : Bool)
  | any
  | anchor
  | boundary
  deriving Repr, DecidableEq

namespace Atom

/-- Whether an atom can stand outside brackets.  Without `unicode` it has to stay in ASCII, unless
it is a character in its own form. -/
def isUsable (mode : Mode) : Atom → Bool
  | .character c byte => if mode.unicode then !mode.foldsCase else !byte || c.toNat < 0x80
  | .shorthand negated => !mode.unicode && !negated
  | .any => mode.unicode
  | .anchor | .boundary => true

/-- Whether an atom can be a member of a set. -/
def isMember (mode : Mode) : Atom → Bool
  | .character c _ => if mode.unicode then !mode.foldsCase else c.toNat < 0x80
  | .shorthand negated => !mode.unicode && !negated
  | _ => false

end Atom

def hexDigits (mode : Mode) : Nat → Reader (List Char)
  | 0 => return []
  | count + 1 => do
    skipBlanks mode
    let digit ← next
    return digit :: (← hexDigits mode count)

def numbered (mode : Mode) (digits : Nat) : Reader Char := do
  match hexNumber? (← hexDigits mode digits) with
  | some n => if n.isValidChar then return Char.ofNat n else failure
  | none => failure

/-- Whether a backslash takes the meaning away from a character: from any mark of ASCII but the
angle brackets. -/
def isEscapable (c : Char) : Bool :=
  c.toNat < 0x80 && !c.isAlphanum && c != '<' && c != '>'

/-- Reads what follows a backslash. -/
def escape (mode : Mode) : Reader Atom := do
  match ← next with
  | 'x' => return .character (← numbered mode 2) true
  | 'u' => return .character (← numbered mode 4) false
  | 'U' => return .character (← numbered mode 8) false
  | 'd' | 's' | 'w' => return .shorthand false
  | 'D' | 'S' | 'W' => return .shorthand true
  | 'a' => return .character '\x07' false
  | 'f' => return .character '\x0c' false
  | 'n' => return .character '\n' false
  | 'r' => return .character '\r' false
  | 't' => return .character '\t' false
  | 'v' => return .character '\x0b' false
  | 'A' | 'z' => return .anchor
  | 'b' | 'B' | '<' | '>' => return .boundary
  | c => if isEscapable c then return .character c false else failure

/-- Reads an atom outside brackets. -/
def atom (mode : Mode) : Reader Atom := do
  match ← next with
  | '\\' => escape mode
  | '.' => return .any
  | '^' | '$' => return .anchor
  | c => return .character c false

end ApiReference.Logging.Pattern
