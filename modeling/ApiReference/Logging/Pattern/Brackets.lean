import ApiReference.Logging.Pattern.Atom
import ApiReference.Text.Split

/-!
# Sets in Brackets

A set lists characters, ranges, named classes and other sets.  An operator of two equal marks joins
what is listed before it with what is listed after it.  Reading a set gives how deeply it is nested.
-/

namespace ApiReference.Logging.Pattern

open Text

/-- How deeply some parts are nested when they stand side by side: one level above the deepest, but
a single part is as deep as it is. -/
def sideBySide : List Nat → Nat
  | [] => 0
  | [depth] => depth
  | depths => 1 + depths.foldl max 0

/-- The names of the classes that may stand in a set between colons. -/
def classNames : List String :=
  ["alnum", "alpha", "ascii", "blank", "cntrl", "digit", "graph", "lower", "print", "punct",
    "space", "upper", "word", "xdigit"]

/-- What follows a named class whose opening bracket was read, and whether the class is negated. -/
def namedClass? (text : List Char) : Option (Bool × List Char) := do
  let (negated, text) ← match text with
    | ':' :: '^' :: rest => some (true, rest)
    | ':' :: rest => some (false, rest)
    | _ => none
  let rest ← dropBeginning? [':', ']'] (text.dropWhile (· != ':'))
  if classNames.contains (String.ofList (text.takeWhile (· != ':'))) then some (negated, rest)
  else none

/-- Whether a named class can be a member of a set. -/
def isUsableClass (mode : Mode) (negated : Bool) : Bool :=
  if mode.unicode then !mode.foldsCase else !negated

def setAtom (mode : Mode) : Reader Atom := do
  match ← next with
  | '\\' => escape mode
  | c => return .character c false

/-- The character after a dash and after the blanks that do not count.  Of a comment only its mark
and blanks are passed over. -/
def afterDash (mode : Mode) (text : List Char) : Option Char :=
  if mode.spaced then
    match text.dropWhile isBlankChar with
    | '#' :: rest => (rest.dropWhile isBlankChar).head?
    | rest => rest.head?
  else text.head?

/-- Whether a range goes on: a dash comes next that is no member and begins no operator. -/
def isRange (mode : Mode) : List Char → Bool
  | '-' :: rest => afterDash mode rest != some ']' && afterDash mode rest != some '-'
  | _ => false

/-- Reads a member of a set: a character, a shorthand or a range. -/
def setMember (mode : Mode) : Reader Unit := do
  let first ← setAtom mode
  if !first.isMember mode then failure
  skipBlanks mode
  if isRange mode (← get) then
    expect '-'
    skipBlanks mode
    let last ← setAtom mode
    match first, last with
    | .character a _, .character b _ => if b < a || !last.isMember mode then failure
    | _, _ => failure

/-- Reads the dashes at the front of a set, or the closing bracket that is its first member. -/
def leadingMembers (mode : Mode) : Nat → List Nat → Reader (List Nat)
  | 0, _ => failure
  | fuel + 1, found => do
    skipBlanks mode
    match ← get with
    | '-' :: rest =>
      set rest
      leadingMembers mode fuel (0 :: found)
    | ']' :: rest =>
      if found.isEmpty then
        set rest
        skipBlanks mode
        return [0]
      else return found
    | _ => return found

/-- The depth of an operator's right side together with its left side, if there is one. -/
def operand (left : Option Nat) (members : List Nat) : Nat :=
  match left with
  | some depth => 1 + max depth (sideBySide members)
  | none => sideBySide members

mutual

def bracketed (mode : Mode) : Nat → Reader Nat
  | 0 => failure
  | fuel + 1 => do
    skipBlanks mode
    let negated := (← get).head? == some '^'
    if negated then expect '^'
    let leading ← leadingMembers mode fuel []
    if !leading.isEmpty && !Atom.isMember mode (.character '-' false) then failure
    let depth ← setRest mode fuel none leading
    if negated && !mode.unicode then failure
    return 1 + depth

/-- Reads the rest of a set after some members, which follow an operator if `left` is the depth of
its left side. -/
def setRest (mode : Mode) : Nat → Option Nat → List Nat → Reader Nat
  | 0, _, _ => failure
  | fuel + 1, left, members => do
    skipBlanks mode
    match ← get with
    | ']' :: rest =>
      set rest
      return operand left members
    | '&' :: '&' :: rest | '-' :: '-' :: rest | '~' :: '~' :: rest =>
      set rest
      setRest mode fuel (some (operand left members)) []
    | '[' :: rest =>
      set rest
      match namedClass? rest with
      | some (negated, rest) =>
        set rest
        if isUsableClass mode negated then setRest mode fuel left (0 :: members) else failure
      | none =>
        let depth ← bracketed mode fuel
        setRest mode fuel left (depth :: members)
    | _ =>
      setMember mode
      setRest mode fuel left (0 :: members)

end

end ApiReference.Logging.Pattern
