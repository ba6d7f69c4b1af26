import ApiReference.Decimal.Word
import ApiReference.Json.Fault

/-!
# Reading JSON Text

A reader takes characters from the front of the text that remains.  What remains is known after a
failure too, since a container is closed even if its contents were refused, and a mismatch is
placed where its container ends.
-/

namespace ApiReference.Json

open Decimal Decode Text

/-- A place in the text: what remains there, and how many bytes of that are counted as read.  The
wording of a refusal may also state a place itself. -/
inductive Mark where
  | before (rest : List Char) (ahead : Nat)
  | stated (place : Place)
  deriving Repr, DecidableEq

/-- A cause and the mark that it was noticed at, once that is settled. -/
structure Failure where
  cause : Cause
  mark : Option Mark
  deriving Repr, DecidableEq

/-- Readers of JSON text. -/
abbrev Reader := ExceptT Failure (StateM (List Char))

def Mark.place (text : List Char) : Mark → Place
  | .before rest ahead =>
    .after (Utf8.encode (text.take (text.length - rest.length)) ++
      (Utf8.encode rest).take ahead)
  | .stated place => place

def Failure.inText (text : List Char) (failure : Failure) : Fault :=
  ⟨failure.cause, failure.mark.map (Mark.place text)⟩

namespace Reader

/-- Runs a reader on what remains. -/
def on (reader : Reader α) (rest : List Char) : Except Failure α × List Char :=
  reader.run.run rest

/-- A reader from what it does to the text that remains. -/
def of (step : List Char → Except Failure α × List Char) : Reader α :=
  ExceptT.mk fun rest ↦ step rest

/-- Fails with a break of the grammar, `ahead` bytes further on. -/
def malformed (what : Malformed) (ahead : Nat) : Reader α :=
  of fun rest ↦ (.error ⟨.malformed what, some (.before rest ahead)⟩, rest)

/-- Fails with a mismatch that is not placed yet. -/
def mismatch (what : Mismatch) : Reader α :=
  throw ⟨.mismatch what, none⟩

/-- Fails with a wording.  If it ends in a place, that is the place of the failure. -/
def refuse (message : String) : Reader α :=
  match statedPlace? message.toList with
  | some (before, place) =>
    throw ⟨.mismatch (.other (String.ofList before)),
      if place.line = 0 then none else some (.stated place)⟩
  | none => mismatch (.other message)

/-- Places a failure that is not placed yet where the reader stopped. -/
def placed (reader : Reader α) : Reader α :=
  of fun rest ↦
    match reader.on rest with
    | (.error ⟨cause, none⟩, rest) => (.error ⟨cause, some (.before rest 0)⟩, rest)
    | outcome => outcome

/-- Runs `finish` after `body` in any case.  A failure of the body comes first. -/
def closing (body : Reader α) (finish : Reader Unit) : Reader α :=
  of fun rest ↦
    match body.on rest with
    | (.error failure, rest) => (.error failure, (finish.on rest).2)
    | (.ok value, rest) =>
      match finish.on rest with
      | (.ok _, rest) => (.ok value, rest)
      | (.error failure, rest) => (.error failure, rest)

def remaining : Reader (List Char) :=
  get

/-- Goes on at the given text. -/
def resume (rest : List Char) : Reader Unit :=
  set rest

/-- Passes over one character. -/
def advance : Reader Unit :=
  modify List.tail

end Reader

/-- The four blanks of JSON. -/
def isBlank (c : Char) : Bool :=
  c == ' ' || c == '\n' || c == '\t' || c == '\r'

namespace Reader

/-- Passes over blanks and shows the character after them. -/
def peekToken : Reader (Option Char) := do
  modify (List.dropWhile isBlank)
  return (← remaining).head?

/-- Reads the rest of a word whose first character is known. -/
def word : List Char → Reader Unit
  | [] => pure ()
  | c :: cs => do
    match ← remaining with
    | [] => malformed .endInValue 0
    | d :: rest =>
      if d = c then
        resume rest
        word cs
      else malformed .expectedWord 1

end Reader

/-! ## Strings -/

/-- What an escape of one letter stands for. -/
def shortEscape? : Char → Option Char
  | '"' => some '"'
  | '\\' => some '\\'
  | '/' => some '/'
  | 'b' => some '\x08'
  | 'f' => some '\x0c'
  | 'n' => some '\n'
  | 'r' => some '\r'
  | 't' => some '\t'
  | _ => none

/-- Whether a code unit is the first of a surrogate pair. -/
def isLeading (unit : Nat) : Bool :=
  0xd800 ≤ unit && unit ≤ 0xdbff

/-- Whether a code unit is the second of a surrogate pair. -/
def isTrailing (unit : Nat) : Bool :=
  0xdc00 ≤ unit && unit ≤ 0xdfff

/-- The character of a surrogate pair. -/
def ofPair (leading trailing : Nat) : Char :=
  Char.ofNat (0x10000 + (leading - 0xd800) * 0x400 + (trailing - 0xdc00))

/-- A break of the grammar at some remaining text. -/
def failAt (what : Malformed) (rest : List Char) (ahead : Nat) : Except Failure α :=
  .error ⟨.malformed what, some (.before rest ahead)⟩

/-- A break inside four hexadecimal digits: the text ends there, or they are no digits. -/
def failInHex (rest : List Char) : Except Failure α :=
  if Utf8.length rest < 4 then failAt .endInString [] 0 else failAt .invalidEscape rest 4

/-- The contents of a string whose opening quote is read, before `text`, and what follows its
closing quote. -/
def stringBody : List Char → Except Failure (List Char × List Char)
  | [] => failAt .endInString [] 0
  | '"' :: rest => .ok ([], rest)
  | '\\' :: 'u' :: a :: b :: c :: d :: rest =>
    match hexNumber? [a, b, c, d] with
    | none => failInHex (a :: b :: c :: d :: rest)
    | some unit =>
      if isTrailing unit then failAt .loneSurrogate rest 0
      else if isLeading unit then
        match rest with
        | '\\' :: 'u' :: e :: f :: g :: h :: rest =>
          match hexNumber? [e, f, g, h] with
          | none => failInHex (e :: f :: g :: h :: rest)
          | some unit' =>
            if isTrailing unit' then
              (stringBody rest).map fun (cs, rest) ↦ (ofPair unit unit' :: cs, rest)
            else failAt .loneSurrogate rest 0
        | [] => failAt .endInString [] 0
        | ['\\'] => failAt .endInString [] 0
        | '\\' :: 'u' :: rest => failInHex rest
        | '\\' :: rest => failAt .unfinishedPair rest 1
        | rest => failAt .unfinishedPair rest 1
      else (stringBody rest).map fun (cs, rest) ↦ (Char.ofNat unit :: cs, rest)
  | '\\' :: 'u' :: rest => failInHex rest
  | ['\\'] => failAt .endInString [] 0
  | '\\' :: c :: rest =>
    match shortEscape? c with
    | some d => (stringBody rest).map fun (cs, rest) ↦ (d :: cs, rest)
    | none => failAt .invalidEscape (c :: rest) 1
  | c :: rest =>
    if c.toNat < 0x20 then failAt .controlCharacter (c :: rest) 1
    else (stringBody rest).map fun (cs, rest) ↦ (c :: cs, rest)

/-- What follows the closing quote of a string whose contents do not matter.  Code units are not
paired up, and a control character is noticed before it is read. -/
def skipStringBody : List Char → Except Failure (List Char)
  | [] => failAt .endInString [] 0
  | '"' :: rest => .ok rest
  | '\\' :: 'u' :: a :: b :: c :: d :: rest =>
    match hexNumber? [a, b, c, d] with
    | none => failInHex (a :: b :: c :: d :: rest)
    | some _ => skipStringBody rest
  | '\\' :: 'u' :: rest => failInHex rest
  | ['\\'] => failAt .endInString [] 0
  | '\\' :: c :: rest =>
    match shortEscape? c with
    | some _ => skipStringBody rest
    | none => failAt .invalidEscape (c :: rest) 1
  | c :: rest =>
    if c.toNat < 0x20 then failAt .controlCharacter (c :: rest) 0 else skipStringBody rest

namespace Reader

/-- Goes on after a scan of the text that remains. -/
def scan (scanner : List Char → Except Failure (α × List Char)) : Reader α :=
  of fun rest ↦
    match scanner rest with
    | .ok (value, rest) => (.ok value, rest)
    | .error failure => (.error failure, rest)

/-- Reads a string whose opening quote is read. -/
def stringRest : Reader String :=
  scan fun rest ↦ (stringBody rest).map fun (cs, rest) ↦ (String.ofList cs, rest)

/-- Passes over a string whose opening quote is read. -/
def skipStringRest : Reader Unit :=
  scan fun rest ↦ (skipStringBody rest).map fun rest ↦ ((), rest)

end Reader

/-! ## Numbers -/

/-- Takes digits onto `significand` while it fits 64 bits.  The digits left over come with it. -/
def takeDigits (significand : Nat) : List Char → Nat × List Char
  | [] => (significand, [])
  | c :: cs =>
    if Word.limit ≤ significand * 10 + digitValue c then (significand, c :: cs)
    else takeDigits (significand * 10 + digitValue c) cs

/-- A significand times a power of ten: the significand is rounded, then multiplied or divided by
the rounded power.  Below `10^-308` this is done in steps. -/
def scaled (significand : Nat) (power : Int) : Option Double :=
  steps 4 (.ofRatio false significand 1) power
where
  steps : Nat → Double → Int → Option Double
    | 0, x, _ => some x
    | fuel + 1, x, power =>
      if power.natAbs ≤ 308 then
        if 0 ≤ power then
          match x.timesPowerOfTen power.toNat with
          | .infinite _ => none
          | x => some x
        else some (x.dividedByPowerOfTen power.natAbs)
      else if x.isZero then some x
      else if 0 ≤ power then none
      else steps fuel (x.dividedByPowerOfTen 308) (power + 308)

/-- A sign on a double. -/
def signed (negative : Bool) (x : Double) : Double :=
  if negative then x.negate else x

namespace Reader

def digits : Reader (List Char) := do
  let rest ← remaining
  resume (rest.dropWhile Char.isDigit)
  return rest.takeWhile Char.isDigit

def doubleOf (negative : Bool) (significand : Nat) (power : Int) : Reader Number :=
  match scaled significand power with
  | some x => return .double (signed negative x)
  | none => malformed .numberOutOfRange 0

def exponent (negative : Bool) (significand : Nat) (power : Int) : Reader Number := do
  let down := (← remaining).head? == some '-'
  if (← remaining).head? == some '-' || (← remaining).head? == some '+' then advance
  let rest ← remaining
  match rest with
  | [] => malformed .endInValue 0
  | c :: _ =>
    if !c.isDigit then malformed .invalidNumber 1
    else
      let ds := rest.takeWhile Char.isDigit
      match firstBeyond 0 ds with
      | some read =>
        if significand ≠ 0 ∧ !down then
          resume (rest.drop read)
          malformed .numberOutOfRange 0
        else
          resume (rest.drop ds.length)
          return .double (.zero negative)
      | none =>
        resume (rest.drop ds.length)
        let value : Int := decimalValue ds
        doubleOf negative significand (if down then power - value else power + value)
where
  /-- How many digits are read when they no longer fit 31 bits. -/
  firstBeyond (value : Nat) : List Char → Option Nat
    | [] => none
    | d :: ds =>
      if 2147483647 < value * 10 + digitValue d then some 1
      else (firstBeyond (value * 10 + digitValue d) ds).map (· + 1)

/-- Reads what follows the digits of a number that is not an integer, if anything does. -/
def fractionAndExponent (negative : Bool) (significand : Nat) (power : Int) : Reader Number := do
  match (← remaining).head? with
  | some '.' =>
    advance
    let ds ← digits
    if ds.isEmpty then
      malformed (if (← remaining).isEmpty then .endInValue else .invalidNumber) 1
    else
      let (significand, left) := takeDigits significand ds
      let power := power - (ds.length - left.length)
      match (← remaining).head? with
      | some 'e' | some 'E' =>
        advance
        exponent negative significand power
      | _ => doubleOf negative significand power
  | some 'e' | some 'E' =>
    advance
    exponent negative significand power
  | _ => doubleOf negative significand power

def beginsFraction (c : Char) : Bool :=
  c == '.' || c == 'e' || c == 'E'

def unsigned (negative : Bool) : Reader Number := do
  match ← remaining with
  | [] => malformed .endInValue 0
  | c :: rest =>
    if !c.isDigit then malformed .invalidNumber 1
    else if c = '0' ∧ (rest.head?.any Char.isDigit) then
      advance
      malformed .invalidNumber 1
    else
      let (significand, left) := takeDigits 0 (← digits)
      if !left.isEmpty then fractionAndExponent negative significand left.length
      else if (← remaining).head?.any beginsFraction then
        fractionAndExponent negative significand 0
      else if !negative then return .integer significand
      else if significand = 0 ∨ Word.signedLimit < significand then
        return .double (signed true (.ofRatio false significand 1))
      else return .integer (-significand)

/-- Reads a number whose first character is known to begin one. -/
def number : Reader Number := do
  if (← remaining).head? == some '-' then
    advance
    unsigned true
  else unsigned false

end Reader

/-! ## Lists and objects -/

namespace Reader

/-- Whether another item of a list follows.  The comma before it is read. -/
def nextItem (first : Bool) : Reader Bool := do
  match ← peekToken with
  | none => malformed .endInList 1
  | some ']' => return false
  | some c =>
    if first then return true
    else if c = ',' then
      advance
      match ← peekToken with
      | some ']' => malformed .trailingComma 1
      | some _ => return true
      | none => malformed .endInValue 1
    else malformed .expectedCommaOrBracket 1

/-- Whether another member of an object follows.  The comma before it is read. -/
def nextMember (first : Bool) : Reader Bool := do
  match ← peekToken with
  | none => malformed .endInObject 1
  | some '\x7d' => return false
  | some c =>
    if first then
      if c = '"' then return true else malformed .keyNotText 1
    else if c = ',' then
      advance
      match ← peekToken with
      | some '"' => return true
      | some '\x7d' => malformed .trailingComma 1
      | some _ => malformed .keyNotText 1
      | none => malformed .endInValue 1
    else malformed .expectedCommaOrBrace 1

/-- Reads a key, its opening quote included. -/
def key : Reader String := do
  advance
  stringRest

def colon : Reader Unit := do
  match ← peekToken with
  | some ':' => advance
  | some _ => malformed .expectedColon 1
  | none => malformed .endInObject 1

def closeList : Reader Unit := do
  match ← peekToken with
  | some ']' => advance
  | some ',' =>
    advance
    match ← peekToken with
    | some ']' => malformed .trailingComma 1
    | _ => malformed .trailingCharacters 1
  | some _ => malformed .trailingCharacters 1
  | none => malformed .endInList 1

def closeObject : Reader Unit := do
  match ← peekToken with
  | some '\x7d' => advance
  | some ',' => malformed .trailingComma 1
  | some _ => malformed .trailingCharacters 1
  | none => malformed .endInObject 1

/-- A fuel that suffices for the text that remains. -/
def fuel : Reader Nat :=
  return (← remaining).length + 1

/-- Reads the items of a list after its bracket, up to its end. -/
def items (item : Reader α) : Reader (List α) := do
  go (← fuel) true
where
  go : Nat → Bool → Reader (List α)
    | 0, _ => malformed .endInList 0
    | fuel + 1, first => do
      if ← nextItem first then
        let value ← item
        let values ← go fuel false
        return value :: values
      else return []

/-- Folds over the members of an object after its brace, up to its end.  `member` reads the value
of a key, with its colon, onto what was made of the members before. -/
def foldMembers (member : σ → String → Reader σ) (initial : σ) : Reader σ := do
  go (← fuel) true initial
where
  go : Nat → Bool → σ → Reader σ
    | 0, _, _ => malformed .endInObject 0
    | fuel + 1, first, state => do
      if ← nextMember first then
        let key ← key
        let state ← member state key
        go fuel false state
      else return state

/-- Reads nothing but blanks up to the end of the text. -/
def finished : Reader Unit := do
  match ← peekToken with
  | some _ => malformed .trailingCharacters 1
  | none => pure ()

/-- What a reader makes of a whole text. -/
def readAll (reader : Reader α) (text : List Char) : Except Fault α :=
  match (reader >>= fun value ↦ finished >>= fun _ ↦ pure value).on text with
  | (.ok value, _) => .ok value
  | (.error failure, _) => .error (failure.inText text)

end Reader

end ApiReference.Json
