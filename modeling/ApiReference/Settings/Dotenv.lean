import ApiReference.Files
import ApiReference.Settings.Override
import ApiReference.Text.Alphanumeric
import ApiReference.Text.Blank
import ApiReference.Text.Quoted

/-!
# Variables from a File

A file of variables has a name, an equals sign and a value on each line.  Values may be quoted, go
on over several lines while a quote is open, and refer to other variables.  A variable that is set
already keeps its value.
-/

namespace ApiReference.Settings.Dotenv

open Text

/-- Why a file of variables is refused.  A line is refused with how far it was read.  A variable
that cannot be set, as the system takes no value with a null character, ends the whole program. -/
inductive Failure where
  | line (text : String) (index : Nat)
  | notText
  | unsettable (name value : String)
  deriving Repr, DecidableEq

def Failure.message : Failure → String
  | .line text index =>
    "Error parsing line: '" ++ text ++ "', error at line index: " ++ toString index
  | .notText => "stream did not contain valid UTF-8"
  | .unsettable name value =>
    "failed to set environment variable `" ++ quoted name ++ "` to `" ++ quoted value ++
      "`: file name contained an unexpected NUL byte"

/-- What is said of a file of variables that ends the whole program. -/
def crash? : Except Failure Unit → Option String
  | .error (.unsettable name value) => some (Failure.unsettable name value).message
  | _ => none

/-! ## Lines -/

/-- What an open quote, an escape or a blank means for the end of a line. -/
inductive Standing where
  | complete
  | escape
  | strong
  | strongEscape
  | weak
  | weakEscape
  | blank
  deriving Repr, DecidableEq

/-- What stands after one more character, or nothing if a comment begins. -/
def Standing.next (standing : Standing) (c : Char) : Option Standing :=
  let opened : Standing :=
    if c = '\\' then .escape else if c = '"' then .weak else if c = '\'' then .strong
    else .complete
  match standing with
  | .blank => if c = '#' then none else some opened
  | .escape => some .complete
  | .complete =>
    if isBlankChar c ∧ c ≠ '\n' ∧ c ≠ '\r' then some .blank else some opened
  | .weak => some (if c = '\\' then .weakEscape else if c = '"' then .complete else .weak)
  | .weakEscape => some .weak
  | .strong => some (if c = '\\' then .strongEscape else if c = '\'' then .complete else .strong)
  | .strongEscape => some .strong

/-- What stands at the end of a line, or what stands before its comment. -/
def Standing.after : Standing → List Char → Standing ⊕ List Char
  | standing, [] => .inl standing
  | standing, c :: rest =>
    match standing.next c with
    | none => .inr []
    | some standing =>
      match standing.after rest with
      | .inl final => .inl final
      | .inr before => .inr (c :: before)

/-- The bytes of each line, with its end. -/
def lineBytes : List UInt8 → List (List UInt8)
  | [] => []
  | b :: rest =>
    if b = 0x0a then [b] :: lineBytes rest
    else match lineBytes rest with
      | [] => [[b]]
      | line :: lines => (b :: line) :: lines

def withoutEnd (line : List Char) : List Char :=
  match line.reverse with
  | '\n' :: '\r' :: rest => rest.reverse
  | '\n' :: rest => rest.reverse
  | _ => line

/-- The lines with those joined that a quote holds together.  `pending` is what came before them. -/
def joinLines (standing : Standing) (pending : List Char) :
    List (Option (List Char)) → List (Except Failure (List Char))
  | [] =>
    if standing = .complete then []
    else [.error (.line (String.ofList pending) (Utf8.length pending))]
  | none :: _ => [.error .notText]
  | some line :: rest =>
    let whole := pending ++ line
    if (trimStart whole).head? = some '#' then .ok [] :: joinLines .complete [] rest
    else match standing.after line with
      | .inr before => .ok (pending ++ before) :: joinLines .complete [] rest
      | .inl .complete => .ok (withoutEnd whole) :: joinLines .complete [] rest
      | .inl standing => joinLines standing whole rest

/-- The lines of a file, after a byte order mark if there is one. -/
def lines (bytes : List UInt8) : List (Except Failure (List Char)) :=
  let bytes := (dropBeginning? [0xef, 0xbb, 0xbf] bytes).getD bytes
  joinLines .complete [] ((lineBytes bytes).map Utf8.decode?)

/-! ## Values -/

/-- What a character of a value means.  `weak` says whether it is in double quotes, and `name` is
what was read of the name of a variable. -/
inductive Mode where
  | plain (weak : Bool)
  | strong
  | escape (weak : Bool)
  | reference (weak : Bool) (name : List Char)
  | braces (weak : Bool) (name : List Char)
  | ended
  deriving Repr, DecidableEq

/-- The value of a variable, empty if it is not set. -/
def valueOf (environment : Environment) (name : List Char) : List Char :=
  ((environment.lookup (String.ofList name)).getD "").toList

/-- What an escaped character stands for. -/
def escaped? (c : Char) : Option Char :=
  if c ∈ ['\\', '\'', '"', '$', ' '] then some c else if c = 'n' then some '\n' else none

/-- What a character outside references does: the mode after it and what it adds to the value.
Without a mode the value is refused. -/
def Mode.next (mode : Mode) (environment : Environment) (c : Char) : Option (Mode × List Char) :=
  match mode with
  | .ended => if c = ' ' ∨ c = '\t' then some (.ended, []) else none
  | .escape weak => (escaped? c).map fun c ↦ (.plain weak, [c])
  | .strong => if c = '\'' then some (.plain false, []) else some (.strong, [c])
  | .reference weak name =>
    if isAlphanumeric c then some (.reference weak (name ++ [c]), [])
    else if c = '\x7b' ∧ name.isEmpty then some (.braces weak [], [])
    else if c = '$' then some (.reference weak [], valueOf environment name)
    else some (.plain weak, valueOf environment name ++ [c])
  | .braces weak name =>
    if c = '\x7d' then some (.plain weak, valueOf environment name)
    else some (.braces weak (name ++ [c]), [])
  | .plain weak =>
    if c = '$' then some (.reference weak [], [])
    else if c = '\\' then some (.escape weak, [])
    else if c = '"' then some (.plain (!weak), [])
    else if weak then some (.plain true, [c])
    else if c = '\'' then some (.strong, [])
    else if c = ' ' ∨ c = '\t' then some (.ended, [])
    else some (.plain false, [c])

/-- Whether a value may end in a mode, and what is added to it then. -/
def Mode.finish (mode : Mode) (environment : Environment) : Option (List Char) :=
  match mode with
  | .plain weak | .escape weak => if weak then none else some []
  | .reference weak name => if weak then none else some (valueOf environment name)
  | .ended => some []
  | .strong | .braces _ _ => none

/-- The value that a text spells, or the index at which it is refused. -/
def value (environment : Environment) (text : List Char) : Except Nat (List Char) :=
  go (.plain false) 0 text
where
  go : Mode → Nat → List Char → Except Nat (List Char)
    | mode, _, [] =>
      match mode.finish environment with
      | some added => .ok added
      | none => .error (Utf8.length text - 1)
    | mode, index, c :: rest =>
      if mode = .ended ∧ c = '#' then .ok []
      else match mode.next environment c with
        | some (mode, added) => (go mode (index + 1) rest).map (added ++ ·)
        | none => .error index

/-! ## Entries -/

/-- A line of which some is read: the bytes before it and what is left. -/
structure Cursor where
  position : Nat
  rest : List Char
  deriving Repr, DecidableEq

def Cursor.skip (cursor : Cursor) (passes : Char → Bool) : Cursor :=
  ⟨cursor.position + Utf8.length (cursor.rest.takeWhile passes), cursor.rest.dropWhile passes⟩

def beginsName (c : Char) : Bool :=
  c.isAlpha || c == '_'

def isNameChar (c : Char) : Bool :=
  c.isAlphanum || c == '_' || c == '.'

def Cursor.name? (cursor : Cursor) : Option (List Char × Cursor) :=
  if cursor.rest.head?.any beginsName then
    some (cursor.rest.takeWhile isNameChar, cursor.skip isNameChar)
  else none

def Cursor.equals? (cursor : Cursor) : Option Cursor :=
  match cursor.rest with
  | '=' :: rest => some ⟨cursor.position + 1, rest⟩
  | _ => none

/-- The name on a line, after the word `export` if that is no name itself, and the cursor after its
equals sign.  A failure has the position where it was noticed. -/
def nameAndEquals (start : Cursor) : Except Nat (List Char × Cursor) := do
  let named (cursor : Cursor) : Except Nat (List Char × Cursor) :=
    match cursor.name? with
    | some (name, cursor) => .ok (name, cursor.skip isBlankChar)
    | none => .error cursor.position
  let (name, cursor) ← named start
  match cursor.equals? with
  | some cursor => .ok (name, cursor)
  | none =>
    if name = "export".toList then
      let (name, cursor) ← named cursor
      match cursor.equals? with
      | some cursor => .ok (name, cursor)
      | none => .error cursor.position
    else .error cursor.position

/-- Whether nothing but a comment is left. -/
def isOver (rest : List Char) : Bool :=
  rest.isEmpty || rest.head? == some '#'

/-- The variable that a line sets, if it sets one. -/
def assigned? (environment : Environment) (line : List Char) :
    Except Failure (Option (String × String)) :=
  let start := (Cursor.mk 0 (trimEnd line)).skip isBlankChar
  if isOver start.rest then .ok none
  else match nameAndEquals start with
    | .error position => .error (.line (String.ofList line) position)
    | .ok (name, cursor) =>
      let rest := (cursor.skip isBlankChar).rest
      if isOver rest then .ok (some (String.ofList name, ""))
      else match value environment rest with
        | .ok value => .ok (some (String.ofList name, String.ofList value))
        | .error index => .error (.line (String.ofList rest) index)

/-- The variables with one more, unless it is set already. -/
def define (environment : Environment) (name value : String) : Except Failure Environment :=
  if (environment.lookup name).isSome then .ok environment
  else if value.toList.contains '\x00' then .error (.unsettable name value)
  else .ok (environment ++ [(name, value)])

/-- The variables with those of some lines, up to the first failure. -/
def loadLines (environment : Environment) :
    List (Except Failure (List Char)) → Environment × Except Failure Unit
  | [] => (environment, .ok ())
  | .error failure :: _ => (environment, .error failure)
  | .ok line :: rest =>
    match assigned? environment line with
    | .error failure => (environment, .error failure)
    | .ok none => loadLines environment rest
    | .ok (some (name, value)) =>
      match define environment name value with
      | .error failure => (environment, .error failure)
      | .ok environment => loadLines environment rest

def fileName : String := ".env"

/-- The variables with those of a file of variables, if there is one.  It is the one in the working
directory, else the nearest one above it; a directory of the name is passed over. -/
def load (files : Files) (environment : Environment) : Environment × Except Failure Unit :=
  match files.nearest? fileName files.directory with
  | some bytes => loadLines environment (lines bytes)
  | none => (environment, .ok ())

end ApiReference.Settings.Dotenv
