import ApiReference.Text.Digits

/-!
# Dates and Times

A TOML datetime is a date, a time, both, or both with an offset.  Its text has the fields in fixed
widths, and a fraction of a second without trailing zeros.
-/

namespace ApiReference.Toml

open Text

/-- A day of the calendar. -/
structure Date where
  year : Nat
  month : Nat
  day : Nat
  deriving Repr, DecidableEq

/-- A time of the day. -/
structure Time where
  hour : Nat
  minute : Nat
  second : Nat
  nanosecond : Nat
  deriving Repr, DecidableEq

/-- The distance of a clock from universal time. -/
inductive Offset where
  | universal
  | minutes (value : Int)
  deriving Repr, DecidableEq

/-- A date, a time or both. -/
structure Datetime where
  date : Option Date
  time : Option Time
  offset : Option Offset
  deriving Repr, DecidableEq

def daysIn (year month : Nat) : Nat :=
  if month = 2 then
    if year % 4 = 0 ∧ (year % 100 ≠ 0 ∨ year % 400 = 0) then 29 else 28
  else if month ∈ [4, 6, 9, 11] then 30
  else 31

def Date.isValid (date : Date) : Bool :=
  1 ≤ date.month && date.month ≤ 12 && 1 ≤ date.day && date.day ≤ daysIn date.year date.month

def padded (width n : Nat) : List Char :=
  let digits := Nat.toDigits 10 n
  List.replicate (width - digits.length) '0' ++ digits

def Date.text (date : Date) : List Char :=
  padded 4 date.year ++ '-' :: padded 2 date.month ++ '-' :: padded 2 date.day

def Time.text (time : Time) : List Char :=
  let fraction :=
    if time.nanosecond = 0 then []
    else '.' :: ((padded 9 time.nanosecond).reverse.dropWhile (· == '0')).reverse
  padded 2 time.hour ++ ':' :: padded 2 time.minute ++ ':' :: padded 2 time.second ++ fraction

def Offset.text : Offset → List Char
  | .universal => ['Z']
  | .minutes value =>
    (if value < 0 then '-' else '+') :: padded 2 (value.natAbs / 60) ++
      ':' :: padded 2 (value.natAbs % 60)

def Datetime.text (datetime : Datetime) : String :=
  let between := if datetime.date.isSome && datetime.time.isSome then ['T'] else []
  String.ofList (datetime.date.elim [] Date.text ++ between ++ datetime.time.elim [] Time.text ++
    datetime.offset.elim [] Offset.text)

/-! ## Reading -/

/-- The value of some decimal digits at the front. -/
def fixedDigits : Nat → List Char → Option (Nat × List Char)
  | 0, rest => some (0, rest)
  | width + 1, c :: rest => do
    if c.isDigit then
      let (value, rest) ← fixedDigits width rest
      return (digitValue c * Nat.pow 10 width + value, rest)
    else none
  | _ + 1, [] => none

/-- What follows a character that has to be at the front. -/
def expectChar (c : Char) : List Char → Option (List Char)
  | d :: rest => if d = c then some rest else none
  | [] => none

def Date.read (text : List Char) : Option (Date × List Char) := do
  let (year, rest) ← fixedDigits 4 text
  let (month, rest) ← fixedDigits 2 (← expectChar '-' rest)
  let (day, rest) ← fixedDigits 2 (← expectChar '-' rest)
  if (Date.mk year month day).isValid then some (⟨year, month, day⟩, rest) else none

/-- The billionths that the digits of a fraction stand for.  Digits after the ninth are dropped. -/
def nanoseconds (digits : List Char) : Nat :=
  let kept := digits.take 9
  decimalValue kept * Nat.pow 10 (9 - kept.length)

def Time.read (text : List Char) : Option (Time × List Char) := do
  let (hour, rest) ← fixedDigits 2 text
  let (minute, rest) ← fixedDigits 2 (← expectChar ':' rest)
  let (second, rest) ← fixedDigits 2 (← expectChar ':' rest)
  if 23 < hour ∨ 59 < minute ∨ 60 < second then none
  else match rest with
    | '.' :: fraction =>
      let digits := fraction.takeWhile Char.isDigit
      if digits.isEmpty then none
      else some (⟨hour, minute, second, nanoseconds digits⟩, fraction.dropWhile Char.isDigit)
    | rest => some (⟨hour, minute, second, 0⟩, rest)

/-- The distance from universal time on the side of a sign. -/
def Offset.signed (sign : Char) (hour minute : Nat) : Offset :=
  let total : Int := hour * 60 + minute
  .minutes (if sign = '-' then -total else total)

def Offset.read (text : List Char) : Option (Offset × List Char) := do
  match text with
  | 'Z' :: rest | 'z' :: rest => return (.universal, rest)
  | sign :: rest =>
    if sign = '+' ∨ sign = '-' then
      let (hour, rest) ← fixedDigits 2 rest
      let (minute, rest) ← fixedDigits 2 (← expectChar ':' rest)
      if 23 < hour ∨ 59 < minute then none else return (.signed sign hour minute, rest)
    else none
  | [] => none

/-- Whether the character stands between a date and a time. -/
def isTimeMark (c : Char) : Bool :=
  c == 'T' || c == 't' || c == ' '

end ApiReference.Toml
