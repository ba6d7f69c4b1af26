import ApiReference.Toml.Datetime

/-!
# Datetimes in Quotes

A text that is marked as a datetime holds a date, a time, or a date, a time and an offset.  A
refusal names the part that is wrong and what should have been there: first a missing number or mark
of the part, then a number of the wrong width, then one out of its range.
-/

namespace ApiReference.Toml

open Text

namespace DatetimeReader

/-- A number in a date, a time or an offset. -/
inductive Field where
  | year
  | month
  | day
  | hour
  | minute
  | second
  deriving Repr, DecidableEq

namespace Field

def name : Field → String
  | .year => "year"
  | .month => "month"
  | .day => "day"
  | .hour => "hour"
  | .minute => "minute"
  | .second => "second"

def width : Field → Nat
  | .year => 4
  | _ => 2

def widthName (field : Field) : String :=
  if field.width = 4 then "four" else "two"

/-- The letters that stand for the digits of a field. -/
def letters : Field → String
  | .year => "YYYY"
  | .month | .minute => "MM"
  | .day => "DD"
  | .hour => "HH"
  | .second => "SS"

end Field

/-- A part of a datetime.  The whole and the joint between date and time count as parts. -/
inductive Part where
  | whole
  | date
  | joint
  | time
  | offset
  deriving Repr, DecidableEq

def Part.name : Part → String
  | .whole => "datetime"
  | .date => "date"
  | .joint => "date-time"
  | .time => "time"
  | .offset => "offset"

/-- What should have been in a text. -/
inductive Expected where
  | beginning
  | firstMark
  | number (field : Field)
  | joined (mark : Char) (left right : Field)
  | fraction
  | wide (field : Field)
  | between (field : Field) (first last : Nat)
  | timeMark
  | offset
  deriving Repr, DecidableEq

/-- A mark in backquotes, with the letters of the fields that it joins. -/
def markText (mark : Char) (left right : Field) : String :=
  let mark := String.ofList [mark]
  "`" ++ mark ++ "` (" ++ left.letters ++ mark ++ right.letters ++ ")"

/-- What should have been in a part, in words. -/
def Expected.text (part : Part) : Expected → String
  | .beginning => "year or hour"
  | .firstMark => markText '-' .year .month ++ " or " ++ markText ':' .hour .minute
  | .number field => field.name
  | .joined mark left right => markText mark left right
  | .fraction => "nanosecond"
  | .wide field =>
    "a " ++ field.widthName ++ "-digit " ++ field.name ++ " (" ++ field.letters ++ ")"
  | .between field first last =>
    field.name ++ (if part = .offset then "s" else "") ++ " between " ++
      String.ofList (padded 2 first) ++ " and " ++ String.ofList (padded 2 last)
  | .timeMark => "`T` between date and time"
  | .offset => "`Z`, +OFFSET, -OFFSET"

/-- Why a text is no datetime.  Nothing is expected where it goes on after its end. -/
structure Refusal where
  part : Part
  expected : Option Expected
  deriving Repr, DecidableEq

def Refusal.message (refusal : Refusal) : String :=
  "invalid " ++ refusal.part.name ++
    (refusal.expected.elim "" fun expected ↦ ", expected " ++ expected.text refusal.part)

/-- A reader that takes its part from the front of the text. -/
abbrev Reader := StateT (List Char) (Except Refusal)

def refuse {α : Type} (part : Part) (expected : Expected) : Reader α :=
  throw ⟨part, some expected⟩

/-- Reads digits, however many. -/
def digits (part : Part) (expected : Expected) : Reader (List Char) := do
  let text ← get
  if text.head?.any Char.isDigit then
    set (text.dropWhile Char.isDigit)
    return text.takeWhile Char.isDigit
  else refuse part expected

def number (part : Part) (field : Field) : Reader (List Char) :=
  digits part (.number field)

def mark (part : Part) (mark : Char) (left right : Field) : Reader Unit := do
  match ← get with
  | c :: rest => if c = mark then set rest else refuse part (.joined mark left right)
  | [] => refuse part (.joined mark left right)

/-- The value of a field's digits, of which there must be the right number. -/
def sized (part : Part) (field : Field) (digits : List Char) : Reader Nat :=
  if digits.length = field.width then return decimalValue digits else refuse part (.wide field)

def require (part : Part) (field : Field) (first last value : Nat) : Reader Unit :=
  if first ≤ value ∧ value ≤ last then return () else refuse part (.between field first last)

def date : Reader Date := do
  let year ← number .date .year
  mark .date '-' .year .month
  let month ← number .date .month
  mark .date '-' .month .day
  let day ← number .date .day
  let year ← sized .date .year year
  let month ← sized .date .month month
  let day ← sized .date .day day
  require .date .month 1 12 month
  require .date .day 1 (daysIn year month) day
  return ⟨year, month, day⟩

/-- Reads the digits after the point of the seconds, if there is one. -/
def fraction : Reader (List Char) := do
  match ← get with
  | '.' :: rest =>
    set rest
    digits .time .fraction
  | _ => return []

def time : Reader Time := do
  let hour ← number .time .hour
  mark .time ':' .hour .minute
  let minute ← number .time .minute
  mark .time ':' .minute .second
  let second ← number .time .second
  let fraction ← fraction
  let hour ← sized .time .hour hour
  let minute ← sized .time .minute minute
  let second ← sized .time .second second
  require .time .hour 0 23 hour
  require .time .minute 0 59 minute
  require .time .second 0 60 second
  return ⟨hour, minute, second, nanoseconds fraction⟩

/-- Reads what follows a date and a time: an offset or nothing. -/
def offset : Reader (Option Offset) := do
  match ← get with
  | [] => return none
  | c :: rest =>
    set rest
    if c = 'Z' ∨ c = 'z' then return some .universal
    else if c = '+' ∨ c = '-' then
      let hour ← number .offset .hour
      mark .offset ':' .hour .minute
      let minute ← number .offset .minute
      let hour ← sized .offset .hour hour
      let minute ← sized .offset .minute minute
      require .offset .hour 0 23 hour
      require .offset .minute 0 59 minute
      return some (.signed c hour minute)
    else refuse .offset .offset

/-- Reads what follows a date: a time and its offset, or nothing. -/
def afterDate (date : Date) : Reader Datetime := do
  match ← get with
  | [] => return ⟨some date, none, none⟩
  | c :: rest =>
    if isTimeMark c then
      set rest
      let time ← time
      return ⟨some date, some time, ← offset⟩
    else refuse .joint .timeMark

/-- Reads a datetime.  The mark after the first number says whether a date or a time begins. -/
def datetime : Reader Datetime := do
  let text ← get
  if !text.head?.any Char.isDigit then refuse .whole .beginning
  match (text.dropWhile Char.isDigit).head? with
  | some '-' => afterDate (← date)
  | some ':' => return ⟨none, some (← time), none⟩
  | _ => refuse .whole .firstMark

end DatetimeReader

def Datetime.ofText (text : String) : Except DatetimeReader.Refusal Datetime := do
  let (datetime, rest) ← DatetimeReader.datetime.run text.toList
  if rest.isEmpty then return datetime else throw ⟨.whole, none⟩

end ApiReference.Toml
