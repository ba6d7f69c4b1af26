import ApiReference.Logging.Pattern.Brackets
import ApiReference.Text.Alphanumeric

/-!
# Patterns of Field Values

A pattern describes texts: alternatives of parts in a row, each an atom, a set or a group, which may
be repeated.  Flags in a group count up to its end.  A filter uses a pattern unless it is malformed
or asks for the boundary of a word in all scripts.
-/

namespace ApiReference.Logging

open Text

/-- Why a pattern cannot be used. -/
inductive PatternError where
  | malformed
  | wordBoundary
  deriving Repr, DecidableEq

def PatternError.message : PatternError → String
  | .malformed => "error building NFA"
  | .wordBoundary =>
    "unsupported regex feature for DFAs: cannot build DFAs for regexes with Unicode word " ++
      "boundaries; switch to ASCII word boundaries, or heuristically enable Unicode word " ++
      "boundaries or use a different regex engine"

namespace Pattern

/-- What counts of a part of a pattern: how deeply it is nested, whether it asks for the boundary of
a word in all scripts, and the names of its groups. -/
structure Shape where
  depth : Nat := 0
  boundary : Bool := false
  names : List (List Char) := []
  deriving Repr, DecidableEq

def Shape.nested (shape : Shape) : Shape :=
  { shape with depth := 1 + shape.depth }

/-- The shape of some parts or alternatives together. -/
def Shape.join (shapes : List Shape) : Shape where
  depth := sideBySide (shapes.map Shape.depth)
  boundary := shapes.any Shape.boundary
  names := shapes.flatMap Shape.names

/-- A part of an alternative.  A setting of flags counts as a part, but cannot be repeated. -/
inductive Part where
  | setting
  | shaped (shape : Shape)
  deriving Repr, DecidableEq

def Part.shape : Part → Shape
  | .setting => {}
  | .shaped shape => shape

/-- What is read of a level: its finished alternatives and the parts of the one that is being read,
the latest first. -/
structure Level where
  branches : List Shape := []
  parts : List Part := []
  deriving Repr, DecidableEq

namespace Level

def push (level : Level) (part : Part) : Level :=
  { level with parts := part :: level.parts }

/-- The level at the beginning of the next alternative. -/
def branch (level : Level) : Level :=
  ⟨Shape.join (level.parts.map Part.shape) :: level.branches, []⟩

def repeatLast? (level : Level) : Option Level :=
  match level.parts with
  | .shaped shape :: parts => some { level with parts := .shaped shape.nested :: parts }
  | _ => none

def shape (level : Level) : Shape :=
  Shape.join level.branch.branches

end Level

def flagLetters : List Char :=
  ['i', 'm', 's', 'U', 'u', 'R', 'x']

/-- The mode after flags are switched on and off.  No flag is named twice, and a dash stands before
those that are switched off. -/
def Mode.change? (mode : Mode) (flags : List Char) : Option Mode := do
  let (on, off) ← match splitAll '-' flags with
    | [on] => some (on, [])
    | [on, off] => if off.isEmpty then none else some (on, off)
    | _ => none
  let letters := on ++ off
  if letters.all flagLetters.contains ∧ letters.Nodup then
    let value (letter : Char) (old : Bool) : Bool :=
      on.contains letter || (old && !off.contains letter)
    some ⟨value 'i' mode.foldsCase, value 'u' mode.unicode, value 'x' mode.spaced⟩
  else none

/-- Whether a text can be the name of a group. -/
def isName : List Char → Bool
  | [] => false
  | c :: rest =>
    (c == '_' || isAlphabetic c) &&
      rest.all fun c ↦ c == '_' || c == '.' || c == '[' || c == ']' || isAlphanumeric c

/-- What an opening bracket begins: a setting of flags for what follows, or a group. -/
inductive Opening where
  | setting (mode : Mode)
  | group (mode : Mode) (name : Option (List Char))

/-- Reads the name of a group up to its closing angle bracket. -/
def groupName : Reader (List Char) := do
  let text ← get
  set (text.dropWhile (· != '>'))
  expect '>'
  let name := text.takeWhile (· != '>')
  if isName name then return name else failure

/-- Whether a character ends the flags of a group or of a setting. -/
def endsFlags (c : Char) : Bool :=
  c == ':' || c == ')'

/-- Reads flags and what ends them: a colon before the parts of a group, or a closing bracket. -/
def flags (mode : Mode) : Reader Opening := do
  let text ← get
  let letters := text.takeWhile (!endsFlags ·)
  set (text.dropWhile (!endsFlags ·))
  let mark ← next
  let changed ← (mode.change? letters : Option Mode)
  if mark = ':' then return .group changed none
  else if letters.isEmpty then failure
  else return .setting changed

def opening (mode : Mode) : Reader Opening := do
  skipBlanks mode
  match ← get with
  | '?' :: 'P' :: '<' :: rest | '?' :: '<' :: rest =>
    set rest
    return .group mode (some (← groupName))
  | '?' :: rest =>
    set rest
    flags mode
  | _ => return .group mode none

/-- Reads a set, an atom or a repetition onto a level. -/
def simplePart (mode : Mode) (level : Level) : Reader Level := do
  match ← get with
  | '[' :: rest =>
    set rest
    let depth ← bracketed mode (2 * rest.length + 2)
    return level.push (.shaped { depth })
  | '?' :: rest | '*' :: rest | '+' :: rest =>
    set (match rest with
      | '?' :: rest => rest
      | rest => rest)
    level.repeatLast?
  | '\x7b' :: _ => failure
  | _ =>
    let atom ← atom mode
    if atom.isUsable mode then
      return level.push (.shaped { boundary := mode.unicode && atom == .boundary })
    else failure

/-- Reads the rest of a level, up to the closing bracket of its group or the end of the pattern. -/
def levelRest : Nat → Mode → Level → Reader Shape
  | 0, _, _ => failure
  | fuel + 1, mode, level => do
    skipBlanks mode
    match ← get with
    | [] | ')' :: _ => return level.shape
    | '|' :: rest =>
      set rest
      levelRest fuel mode level.branch
    | '(' :: rest =>
      set rest
      match ← opening mode with
      | .setting mode => levelRest fuel mode (level.push .setting)
      | .group inner name =>
        let shape ← levelRest fuel inner {}
        expect ')'
        let names := name.toList ++ shape.names
        levelRest fuel mode (level.push (.shaped { shape.nested with names }))
    | _ => levelRest fuel mode (← simplePart mode level)

/-- The shape of a whole pattern, if it is well-formed. -/
def shape? (text : List Char) : Option Shape := do
  let (shape, rest) ← (levelRest (text.length + 1) {} {}).run text
  if rest.isEmpty ∧ shape.names.Nodup ∧ shape.depth ≤ 250 then some shape else none

/-- Refuses a pattern that cannot be used. -/
def check (text : List Char) : Except PatternError Unit :=
  match shape? text with
  | none => .error .malformed
  | some shape => if shape.boundary then .error .wordBoundary else .ok ()

end Pattern

end ApiReference.Logging
