import ApiReference.Decimal.Word
import ApiReference.Text.Digits
import ApiReference.Toml.Document

/-!
# Reading TOML Text

A reader takes characters from the front of the text or fails, and after a failure another reader
may be tried at the same place.  Containers in one another and the steps of a dotted key are
bounded.
-/

namespace ApiReference.Toml

open Decimal Text

/-- Readers of TOML text. -/
abbrev Reader := StateT (List Char) Option

namespace Reader

def peek : Reader (Option Char) :=
  return (← get).head?

/-- Takes a character that has to be at the front. -/
def char (c : Char) : Reader Unit := do
  set (← expectChar c (← get))

def chars (cs : List Char) : Reader Unit :=
  cs.forM char

/-- Takes the characters at the front that pass a test. -/
def takeWhile (test : Char → Bool) : Reader (List Char) := do
  let rest ← get
  set (rest.dropWhile test)
  return rest.takeWhile test

/-- Reads with a function on the text. -/
def lift (read : List Char → Option (α × List Char)) : Reader α :=
  read

/-- Reads if it can. -/
def optional (reader : Reader α) : Reader (Option α) :=
  (some <$> reader) <|> pure none

/-- Blanks within a line. -/
def isSpace (c : Char) : Bool :=
  c == ' ' || c == '\t'

def spaces : Reader Unit := do
  let _ ← takeWhile isSpace

def newline : Reader Unit :=
  char '\n' <|> chars ['\r', '\n']

def isCommentChar (c : Char) : Bool :=
  c == '\t' || (0x20 ≤ c.toNat && c.toNat != 0x7f)

def comment : Reader Unit := do
  if (← peek) = some '#' then
    let _ ← takeWhile isCommentChar

/-- Takes what may follow on a line, and the end of the line or of the text. -/
def endLine : Reader Unit := do
  spaces
  comment
  if (← get).isEmpty then pure () else newline

/-- A fuel that suffices for the text that remains. -/
def fuel : Reader Nat :=
  return (← get).length + 1

def blankLines : Reader Unit := do
  go (← fuel)
where
  go : Nat → Reader Unit
    | 0 => failure
    | fuel + 1 => do
      spaces
      match ← peek with
      | some '#' =>
        comment
        newline
        go fuel
      | some '\n' | some '\r' =>
        newline
        go fuel
      | _ => pure ()

/-! ## Strings -/

/-- The character with a code point of so many hexadecimal digits. -/
def codePoint (width : Nat) : Reader Char := do
  let rest ← get
  let n ← hexNumber? (rest.take width)
  if width ≤ rest.length ∧ n.isValidChar then
    set (rest.drop width)
    return Char.ofNat n
  else failure

def escape : Reader Char := do
  let c ← (← get).head?
  modify List.tail
  match c with
  | 'b' => return '\x08'
  | 't' => return '\t'
  | 'n' => return '\n'
  | 'f' => return '\x0c'
  | 'r' => return '\r'
  | '"' => return '"'
  | '\\' => return '\\'
  | 'u' => codePoint 4
  | 'U' => codePoint 8
  | _ => failure

/-- Whether a character may stand in a string without an escape. -/
def isStringChar (c : Char) : Bool :=
  isCommentChar c

/-- Reads a string in double quotes on one line, after its quote. -/
def basicString : Reader (List Char) := do
  go (← fuel)
where
  go : Nat → Reader (List Char)
    | 0 => failure
    | fuel + 1 => do
      let c ← (← get).head?
      modify List.tail
      match c with
      | '"' => return []
      | '\\' =>
        let c ← escape
        return c :: (← go fuel)
      | c => if isStringChar c then return c :: (← go fuel) else failure

/-- Reads a string in single quotes on one line, after its quote. -/
def literalString : Reader (List Char) := do
  let cs ← takeWhile fun c ↦ c != '\'' && isStringChar c
  char '\''
  return cs

/-- Whether a backslash before this text ends its line. -/
def endsLine (rest : List Char) : Bool :=
  match rest.dropWhile isSpace with
  | '\n' :: _ | '\r' :: '\n' :: _ => true
  | _ => false

def foldedBlanks : Reader Unit := do
  go (← fuel)
where
  go : Nat → Reader Unit
    | 0 => failure
    | fuel + 1 => do
      spaces
      match ← get with
      | '\n' :: _ | '\r' :: '\n' :: _ =>
        newline
        go fuel
      | _ => pure ()

/-- Reads a string of several lines, after the three quotes that open it.  Three to five quotes end
it, and those before the last three belong to it. -/
def longString (quote : Char) (escapes : Bool) : Reader (List Char) := do
  let _ ← optional newline
  go (← fuel)
where
  go : Nat → Reader (List Char)
    | 0 => failure
    | fuel + 1 => do
      let c ← (← get).head?
      if c = quote then
        let quotes ← takeWhile (· == quote)
        if quotes.length < 3 then return quotes ++ (← go fuel)
        else if quotes.length ≤ 5 then return quotes.drop 3
        else failure
      else if c = '\n' ∨ c = '\r' then
        newline
        return '\n' :: (← go fuel)
      else if c = '\\' ∧ escapes then
        modify List.tail
        if endsLine (← get) then
          foldedBlanks
          go fuel
        else
          let c ← escape
          return c :: (← go fuel)
      else if isStringChar c then
        modify List.tail
        return c :: (← go fuel)
      else failure

def string : Reader (List Char) :=
  (chars ['"', '"', '"'] >>= fun _ ↦ longString '"' true) <|>
    (chars ['\'', '\'', '\''] >>= fun _ ↦ longString '\'' false) <|>
    (char '"' >>= fun _ ↦ basicString) <|>
    (char '\'' >>= fun _ ↦ literalString)

/-! ## Keys -/

/-- Whether a character may stand in a key without quotes. -/
def isBareKeyChar (c : Char) : Bool :=
  c.isAlphanum || c == '_' || c == '-'

def keyStep : Reader String := do
  match ← peek with
  | some '"' =>
    char '"'
    return String.ofList (← basicString)
  | some '\'' =>
    char '\''
    return String.ofList (← literalString)
  | _ =>
    let cs ← takeWhile isBareKeyChar
    if cs.isEmpty then failure else return String.ofList cs

/-- The number of steps of a key, and the number of containers in one another, stay below this. -/
def depthLimit : Nat := 80

/-- Reads a key: steps with dots between them, and blanks around each. -/
def key : Reader (List String × String) := do
  let steps ← go (← fuel)
  if depthLimit ≤ steps.length then failure
  match steps.getLast? with
  | some last => return (steps.dropLast, last)
  | none => failure
where
  go : Nat → Reader (List String)
    | 0 => failure
    | fuel + 1 => do
      spaces
      let step ← keyStep
      spaces
      if (← peek) = some '.' then
        char '.'
        return step :: (← go fuel)
      else return [step]

/-! ## Numbers and datetimes -/

/-- Reads digits that may have single underscores between them.  The underscores are dropped. -/
def underscored (isDigit : Char → Bool) : Reader (List Char) := do
  let cs ← takeWhile fun c ↦ isDigit c || c == '_'
  let paired := cs.zip cs.tail
  if !(cs.head?.any isDigit) || !(cs.getLast?.any isDigit) ||
      paired.any (fun (a, b) ↦ a == '_' && b == '_') then failure
  return cs.filter (· != '_')

/-- Reads a sign if there is one, and gives whether it is a minus. -/
def sign : Reader Bool := do
  match ← peek with
  | some '-' =>
    char '-'
    return true
  | some '+' =>
    char '+'
    return false
  | _ => return false

/-- The value of digits in a base. -/
def valueIn (base : Nat) (cs : List Char) : Nat :=
  cs.foldl (fun n c ↦ n * base + (hexValue? c).getD 0) 0

def wholeDigits : Reader (List Char) := do
  if (← peek) = some '0' then
    char '0'
    return ['0']
  else underscored Char.isDigit

/-- Reads an integer in some base after its mark. -/
def integerIn (base : Nat) (isDigit : Char → Bool) : Reader Value := do
  let n := valueIn base (← underscored isDigit)
  if n < Word.signedLimit then return .integer n else failure

def isHexDigit (c : Char) : Bool :=
  (hexValue? c).isSome

def integer : Reader Value :=
  (chars ['0', 'x'] >>= fun _ ↦ integerIn 16 isHexDigit) <|>
    (chars ['0', 'o'] >>= fun _ ↦ integerIn 8 fun c ↦ '0' ≤ c && c ≤ '7') <|>
    (chars ['0', 'b'] >>= fun _ ↦ integerIn 2 fun c ↦ c == '0' || c == '1') <|>
    decimal
where
  decimal : Reader Value := do
    let negative ← sign
    let n := valueIn 10 (← wholeDigits)
    let value : Int := if negative then -n else n
    if -Word.signedLimit ≤ value ∧ value < Word.signedLimit then return .integer value else failure

/-- Reads an exponent with its letter, if there is one. -/
def exponent : Reader (Option Int) := do
  match ← peek with
  | some 'e' | some 'E' =>
    modify List.tail
    let negative ← sign
    let n : Int := valueIn 10 (← underscored Char.isDigit)
    return some (if negative then -n else n)
  | _ => return none

/-- Reads a number with a fraction or an exponent.  It may be too small for a double, but too large
only when it is negative. -/
def decimalDouble : Reader Value := do
  let negative ← sign
  let whole ← wholeDigits
  let fraction ← optional (char '.' >>= fun _ ↦ underscored Char.isDigit)
  let power ← exponent
  if fraction.isNone && power.isNone then failure
  let digits := whole ++ fraction.getD []
  let x := Double.ofDecimal negative (valueIn 10 digits)
    (power.getD 0 - (fraction.getD []).length)
  if x = .infinite false then failure else return .double x

def specialDouble : Reader Value := do
  let negative ← sign
  (chars ['i', 'n', 'f'] >>= fun _ ↦ return .double (.infinite negative)) <|>
    (chars ['n', 'a', 'n'] >>= fun _ ↦ return .double .nan)

/-- Reads a time and its offset after a date, if there are any. -/
def timeAfterDate : Reader (Option (Time × Option Offset)) :=
  optional do
    match ← peek with
    | some c =>
      if isTimeMark c then
        modify List.tail
        let time ← lift Time.read
        let offset ← optional (lift Offset.read)
        return (time, offset)
      else failure
    | none => failure

def datetime : Reader Value :=
  (do
    let date ← lift Date.read
    match ← timeAfterDate with
    | some (time, offset) => return .datetime ⟨some date, some time, offset⟩
    | none => return .datetime ⟨some date, none, none⟩) <|>
  (do
    let time ← lift Time.read
    return .datetime ⟨none, some time, none⟩)

/-! ## Values -/

/-- Reads a value that is no container, by its first character. -/
def scalar (c : Char) : Reader Value :=
  if c = '"' ∨ c = '\'' then (fun cs ↦ .text (String.ofList cs)) <$> string
  else if c = 't' then chars ['t', 'r', 'u', 'e'] >>= fun _ ↦ return .flag true
  else if c = 'f' then chars ['f', 'a', 'l', 's', 'e'] >>= fun _ ↦ return .flag false
  else if c = 'i' ∨ c = 'n' then specialDouble
  else if c = '+' ∨ c = '-' ∨ c.isDigit then
    datetime <|> decimalDouble <|> specialDouble <|> integer
  else failure

/-- Reads the items of an array after its bracket, up to its closing bracket. -/
def arrayItems (item : Reader Item) : Reader (List Item) := do
  go (← fuel)
where
  go : Nat → Reader (List Item)
    | 0 => failure
    | fuel + 1 => do
      blankLines
      if (← peek) = some ']' then
        char ']'
        return []
      else
        let value ← item
        blankLines
        if (← peek) = some ',' then
          char ','
          return value :: (← go fuel)
        else
          char ']'
          return [value]

def pair (item : Reader Item) : Reader Pair := do
  let (path, key) ← key
  char '='
  spaces
  return ⟨path, key, ← item⟩

/-- Reads the pairs of a table in braces after its brace, up to its closing brace. -/
def bracePairs (item : Reader Item) : Reader (List Pair) := do
  spaces
  if (← peek) = some '\x7d' then
    char '\x7d'
    return []
  else go (← fuel)
where
  go : Nat → Reader (List Pair)
    | 0 => failure
    | fuel + 1 => do
      let pair ← pair item
      spaces
      if (← peek) = some ',' then
        char ','
        return pair :: (← go fuel)
      else
        char '\x7d'
        return [pair]

/-- Reads a value with at most so many containers in one another. -/
def item : Nat → Reader Item
  | 0 => do
    let c ← (← get).head?
    .scalar <$> scalar c
  | depth + 1 => do
    let c ← (← get).head?
    if c = '[' then
      char '['
      return .array (← arrayItems (item depth))
    else if c = '\x7b' then
      char '\x7b'
      let pairs ← bracePairs (item depth)
      return .table .braces (← Entries.addPairs [] pairs)
    else .scalar <$> scalar c

/-! ## Documents -/

/-- What a line of a document holds. -/
inductive Line where
  | nothing
  | pair (pair : Pair)
  | header (path : List String) (repeated : Bool)

def header : Reader Line := do
  let repeated := (← peek) = some '['
  if repeated then char '['
  let (path, last) ← key
  char ']'
  if repeated then char ']'
  endLine
  return .header (path ++ [last]) repeated

def line : Reader Line := do
  match ← peek with
  | some '#' | some '\n' | some '\r' =>
    endLine
    return .nothing
  | some '[' =>
    char '['
    header
  | _ =>
    let pair ← pair (item (depthLimit - 1))
    endLine
    return .pair pair

def lines : Reader (List Line) := do
  go (← fuel)
where
  go : Nat → Reader (List Line)
    | 0 => failure
    | fuel + 1 => do
      spaces
      if (← get).isEmpty then return []
      else
        let line ← line
        return line :: (← go fuel)

end Reader

/-- The sections that lines make up, the pairs of the first of them having no header yet. -/
def sectionsOf : List Reader.Line → List Pair × List Section
  | [] => ([], [])
  | .nothing :: rest => sectionsOf rest
  | .pair pair :: rest =>
    let (pairs, sections) := sectionsOf rest
    (pair :: pairs, sections)
  | .header path repeated :: rest =>
    let (pairs, sections) := sectionsOf rest
    ([], ⟨path, repeated, pairs⟩ :: sections)

/-- The sections of a document.  The first holds the pairs without a header. -/
def readSections (text : String) : Option (List Section) := do
  let cs := match text.toList with
    | '\ufeff' :: rest => rest
    | cs => cs
  let (lines, _) ← Reader.lines.run cs
  let (pairs, sections) := sectionsOf lines
  return ⟨[], false, pairs⟩ :: sections

def Value.read? (text : String) : Option Value := do
  tableValue? (← Entries.ofSections (← readSections text))

end ApiReference.Toml
