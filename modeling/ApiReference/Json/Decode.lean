import ApiReference.Decimal.Word
import ApiReference.Decode.Source
import ApiReference.Json.Tree

/-!
# Typed Data from JSON Text

A mismatch is noticed as the text is read, so of a mismatch and a later break of the grammar the
mismatch is reported.  A record is written as an object, or as a list of its members in order.
-/

namespace ApiReference.Json

open Decode

def Number.toCount : Number → Except Mismatch UInt64
  | .integer (.ofNat n) =>
    if n < Decimal.Word.limit then .ok n.toUInt64 else .error (.value (.integer n) "u64")
  | .integer n => .error (.value (.integer n) "u64")
  | .double x => .error (.type (.double x) "u64")

namespace Reader

def flag : Reader Bool :=
  value fun c ↦
    if c = 't' then do advance; word ['r', 'u', 'e']; return true
    else if c = 'f' then do advance; word ['a', 'l', 's', 'e']; return false
    else wrongType "a boolean" c

def count : Reader UInt64 :=
  value fun c ↦
    if beginsNumber c then do accept (← number).toCount else wrongType "u64" c

/-- Reads `null` where a choice holds nothing. -/
def nothing : Reader Unit :=
  value fun c ↦ if c = 'n' then do advance; word ['u', 'l', 'l'] else wrongType "unit" c

def choiceName (options : List (String × α)) : Reader α :=
  placed do accept (choose options (← string "variant identifier"))

/-- Reads the key of an object of one member, which names a choice. -/
def choiceKey (options : List (String × α)) : Reader α := do
  match ← peekToken with
  | some '"' => choiceName options
  | some '\x7d' => malformed .expectedValue 1
  | some _ => malformed .keyNotText 1
  | none => malformed .endInObject 1

/-- Reads a choice: its name, or an object of the name and `null`. -/
def choice (options : List (String × α)) : Reader α := do
  match ← peekToken with
  | some '\x7b' =>
    advance
    let value ← choiceKey options
    colon
    nothing
    match ← peekToken with
    | some '\x7d' =>
      advance
      return value
    | some _ => malformed .expectedValue 0
    | none => malformed .endInObject 0
  | some '"' => choiceName options
  | some _ => malformed .expectedValue 1
  | none => malformed .endInValue 1

/-- Reads `null` as no value. -/
def optional (read : Reader α) : Reader (Option α) := do
  match ← peekToken with
  | some 'n' =>
    advance
    word ['u', 'l', 'l']
    return none
  | _ => some <$> read

def list (item : Reader α) : Reader (List α) :=
  value fun c ↦ if c = '[' then enclosedList (items item) else wrongType "a sequence" c

/-! ## Values that nobody asked for -/

def skipDigits : Reader Unit := do
  let _ ← digits

def skipExponent : Reader Unit := do
  if (← remaining).head? == some '-' || (← remaining).head? == some '+' then advance
  if (← remaining).head?.any Char.isDigit then skipDigits else malformed .invalidNumber 1

/-- Passes over a number after its sign, whatever its size. -/
def skipUnsigned : Reader Unit := do
  match (← remaining).head? with
  | some '0' =>
    advance
    if (← remaining).head?.any Char.isDigit then malformed .invalidNumber 1
  | some c => if c.isDigit then skipDigits else malformed .invalidNumber 1
  | none => malformed .invalidNumber 1
  if (← remaining).head? == some '.' then
    advance
    if (← remaining).head?.any Char.isDigit then skipDigits else malformed .invalidNumber 1
  if (← remaining).head?.any fun c ↦ c == 'e' || c == 'E' then
    advance
    skipExponent

def skipKey : Reader Unit := do
  match ← peekToken with
  | some '"' =>
    advance
    skipStringRest
    colon
  | some _ => malformed .keyNotText 1
  | none => malformed .endInObject 1

mutual

/-- Passes over a value of any depth. -/
def skipValue : Nat → Reader Unit
  | 0 => malformed .endInValue 0
  | fuel + 1 => do
    match ← peekToken with
    | none => malformed .endInValue 1
    | some 'n' => advance; word ['u', 'l', 'l']
    | some 't' => advance; word ['r', 'u', 'e']
    | some 'f' => advance; word ['a', 'l', 's', 'e']
    | some '"' => advance; skipStringRest
    | some '-' => advance; skipUnsigned
    | some '[' => advance; skipItems fuel true
    | some '\x7b' => advance; skipMembers fuel true
    | some c => if c.isDigit then skipUnsigned else malformed .expectedValue 1

/-- Passes over the items of a list and its closing bracket. -/
def skipItems : Nat → Bool → Reader Unit
  | 0, _ => malformed .endInList 0
  | fuel + 1, first => do
    match ← peekToken with
    | none => malformed .endInList 1
    | some ']' => advance
    | some c =>
      if !first && c != ',' then malformed .expectedCommaOrBracket 1
      else
        if !first then advance
        skipValue fuel
        skipItems fuel false

/-- Passes over the members of an object and its closing brace. -/
def skipMembers : Nat → Bool → Reader Unit
  | 0, _ => malformed .endInObject 0
  | fuel + 1, first => do
    match ← peekToken with
    | none => malformed .endInObject 1
    | some '\x7d' => advance
    | some c =>
      if !first && c != ',' then malformed .expectedCommaOrBrace 1
      else
        if !first then advance
        skipKey
        skipValue fuel
        skipMembers fuel false

end

/-- Passes over a value. -/
def skip : Reader Unit := do
  skipValue (2 * (← fuel))

/-! ## Records -/

variable {ρ : Type}

/-- Reads a record from the items of a list, from its member number `index` on.  Members that are
left over keep their default, unless one of them is required. -/
def recordItems (shape : Shape Reader ρ) :
    List (Member Reader ρ) → Nat → ρ → Reader ρ
  | [], _, record => pure record
  | member :: members, index, record => do
    if ← nextItem (index == 0) then
      let update ← member.update
      recordItems shape members (index + 1) (update record)
    else
      match (member :: members).findIdx? Member.required with
      | some offset => mismatch (.length (index + offset) shape.lengthText)
      | none => return record

/-- Reads one member of a record onto the record and the keys seen before. -/
def recordMember (shape : Shape Reader ρ) (state : ρ × List String) (key : String) :
    Reader (ρ × List String) := do
  match shape.member? key with
  | none =>
    if shape.strict then mismatch (.unknownField key shape.keys)
    else
      colon
      skip
      return state
  | some member =>
    if state.2.contains key then mismatch (.duplicateField key)
    else
      colon
      let update ← member.update
      return (update state.1, key :: state.2)

def recordMembers (shape : Shape Reader ρ) : Reader ρ := do
  let (record, seen) ← foldMembers (recordMember shape) (shape.initial, [])
  match shape.missing? seen with
  | some key => mismatch (.missingField key)
  | none => return record

def record (shape : Shape Reader ρ) : Reader ρ :=
  value fun c ↦
    if c = '[' then enclosedList (recordItems shape shape.members 0 shape.initial)
    else if c = '\x7b' then enclosedObject (recordMembers shape)
    else wrongType ("struct " ++ shape.title) c

end Reader

instance : Source Reader where
  text := Reader.string "a string"
  flag := Reader.flag
  count := Reader.count
  choice := Reader.choice
  optional := Reader.optional
  list := Reader.list
  record := Reader.record

end ApiReference.Json
