import ApiReference.Json.Reader

/-!
# Values of Any Shape from JSON Text

A builder says what a type of values makes of the parts of a JSON text, and what it refuses.  The
reader is the same for every builder: it recurses on the number of containers that may still be
opened.
-/

namespace ApiReference.Json

open Decode

/-- A value that is no container. -/
inductive Scalar where
  | null
  | flag (value : Bool)
  | number (value : Number)
  | text (value : String)
  deriving Repr, DecidableEq

/-- A number as it is named in a mismatch. -/
def Number.found : Number → Found
  | .integer value => .integer value
  | .double value => .double value

/-- A scalar as it is named in a mismatch. -/
def Scalar.found : Scalar → Found
  | .null => .nothing
  | .flag value => .flag value
  | .number value => value.found
  | .text value => .text value

def beginsNumber (c : Char) : Bool :=
  c == '-' || c.isDigit

namespace Reader

/-- The reader of the scalars that begin with a character. -/
def scalar? (c : Char) : Option (Reader Scalar) :=
  match c with
  | 'n' => some do advance; word ['u', 'l', 'l']; return .null
  | 't' => some do advance; word ['r', 'u', 'e']; return .flag true
  | 'f' => some do advance; word ['a', 'l', 's', 'e']; return .flag false
  | '"' => some do advance; return .text (← stringRest)
  | c => if beginsNumber c then some (Scalar.number <$> number) else none

/-- Fails with a mismatch or gives the value. -/
def accept : Except Mismatch α → Reader α
  | .ok value => pure value
  | .error what => mismatch what

/-- Refuses the value that begins with a character.  A scalar is read first. -/
def wrongType (expected : String) (c : Char) : Reader α := do
  match scalar? c with
  | some scalar => mismatch (.type (← scalar).found expected)
  | none =>
    if c = '[' then mismatch (.type .list expected)
    else if c = '\x7b' then mismatch (.type .table expected)
    else malformed .expectedValue 1

/-- Reads a value by its first character. -/
def value (read : Char → Reader α) : Reader α :=
  placed do
    match ← peekToken with
    | none => malformed .endInValue 1
    | some c => read c

def string (expected : String) : Reader String :=
  value fun c ↦ if c = '"' then advance >>= fun _ ↦ stringRest else wrongType expected c

def enclosedList (body : Reader α) : Reader α :=
  advance >>= fun _ ↦ closing body closeList

def enclosedObject (body : Reader α) : Reader α :=
  advance >>= fun _ ↦ closing body closeObject

end Reader

/-- What a type of values makes of the parts of a JSON text.  An object that begins with a key of
`special` is read as one text, described and converted as it says. -/
structure Builder (α : Type) where
  scalar : Scalar → Except Mismatch α
  list : List α → α
  table : List (String × α) → α
  permit : List (String × α) → String → Except Mismatch Unit
  special : String → Option (String × (String → Except Mismatch α))

namespace Builder

variable {α : Type}

/-- Reads one more member onto the members before it. -/
def member (builder : Builder α) (tree : Reader α) (members : List (String × α)) (key : String) :
    Reader (List (String × α)) := do
  Reader.accept (builder.permit members key)
  Reader.colon
  return putMember key (← tree) members

/-- Reads the members of an object, or the one text of a special object. -/
def objectBody (builder : Builder α) (tree : Reader α) : Reader α := do
  let start ← Reader.remaining
  if ← Reader.nextMember true then
    match builder.special (← Reader.key) with
    | some (expected, convert) =>
      Reader.colon
      Reader.placed do Reader.accept (convert (← Reader.string expected))
    | none =>
      Reader.resume start
      return builder.table (← Reader.foldMembers (builder.member tree) [])
  else return builder.table []

/-- Reads a value with at most `depth` containers in one another. -/
def tree (builder : Builder α) : Nat → Reader α
  | 0 => Reader.value fun c ↦
    match Reader.scalar? c with
    | some scalar => scalar >>= fun scalar ↦ Reader.accept (builder.scalar scalar)
    | none =>
      if c = '[' ∨ c = '\x7b' then Reader.malformed .tooDeep 1
      else Reader.malformed .expectedValue 1
  | depth + 1 => Reader.value fun c ↦
    match Reader.scalar? c with
    | some scalar => scalar >>= fun scalar ↦ Reader.accept (builder.scalar scalar)
    | none =>
      if c = '[' then
        Reader.enclosedList (builder.list <$> Reader.items (builder.tree depth))
      else if c = '\x7b' then Reader.enclosedObject (builder.objectBody (builder.tree depth))
      else Reader.malformed .expectedValue 1

/-- The most containers that may lie in one another. -/
def maxDepth : Nat := 127

/-- The value that a whole text spells. -/
def read (builder : Builder α) (text : String) : Except Fault α :=
  Reader.readAll (builder.tree maxDepth) text.toList

end Builder

/-- JSON values themselves.  Of a repeated key the last value counts. -/
def Value.builder : Builder Value where
  scalar
    | .null => .ok .null
    | .flag value => .ok (.flag value)
    | .number value => .ok (.number value)
    | .text value => .ok (.text value)
  list := .array
  table := .object
  permit _ _ := .ok ()
  special _ := none

def Value.read (text : String) : Except Fault Value :=
  Value.builder.read text

end ApiReference.Json
