import ApiReference.Text.Utf8

/-!
# Terminal Text

Bytes for a terminal hold sequences that it obeys instead of showing them.  The plain text is what
is left when these sequences and the other control bytes are taken out; of the control bytes only
white space stays.  A sequence that is not finished takes in what follows, up to the next escape
byte.
-/

namespace ApiReference.Text.Terminal

/-- What a terminal is reading. -/
inductive Stage where
  | text
  | escape
  | escapeMiddle
  | control
  | title
  | device
  | deviceParameters
  | deviceMiddle
  | string
  deriving Repr, DecidableEq

namespace Stage

/-- The stage after the byte that follows an escape byte. -/
def afterEscape (b : UInt8) : Stage :=
  if 0x20 ≤ b ∧ b ≤ 0x2f then .escapeMiddle
  else if b = 0x50 then .device
  else if b = 0x58 ∨ b = 0x5e ∨ b = 0x5f then .string
  else if b = 0x5b then .control
  else if b = 0x5d then .title
  else if 0x30 ≤ b ∧ b ≤ 0x7e then .text
  else .escape

def next (stage : Stage) (b : UInt8) : Stage :=
  if b = 0x18 ∨ b = 0x1a then .text
  else if b = 0x1b then .escape
  else match stage with
    | .text => .text
    | .escape => afterEscape b
    | .escapeMiddle => if 0x30 ≤ b ∧ b ≤ 0x7e then .text else stage
    | .control => if 0x40 ≤ b ∧ b ≤ 0x7e then .text else stage
    | .title => if b = 0x07 then .text else stage
    | .device =>
      if 0x20 ≤ b ∧ b ≤ 0x2f then .deviceMiddle
      else if 0x30 ≤ b ∧ b ≤ 0x3f then .deviceParameters
      else if 0x40 ≤ b ∧ b ≤ 0x7e then .string
      else stage
    | .deviceParameters =>
      if 0x20 ≤ b ∧ b ≤ 0x2f then .deviceMiddle
      else if 0x3c ≤ b ∧ b ≤ 0x7e then .string
      else stage
    | .deviceMiddle => if 0x30 ≤ b ∧ b ≤ 0x7e then .string else stage
    | .string => if b = 0x9c then .text else stage

/-- Whether a byte is a control byte that stays in the text. -/
def isSpacing (b : UInt8) : Bool :=
  b == 0x09 || b == 0x0a || b == 0x0c || b == 0x0d

/-- Whether a byte begins a character of more than one byte. -/
def isLead (b : UInt8) : Bool :=
  0xc2 ≤ b && b ≤ 0xf4

/-- Whether a terminal shows a byte. -/
def shows (stage : Stage) (b : UInt8) : Bool :=
  match stage with
  | .text => (0x20 ≤ b && b ≤ 0x7e) || isSpacing b || isLead b
  | .escape | .escapeMiddle | .control => isSpacing b
  | _ => false

end Stage

/-- The bytes that are shown, `shown` being whether the byte before was.  What follows a shown byte
is text again, although the sequence that it stands in goes on at the next byte that is not. -/
def plainBytes (stage : Stage) (shown : Bool) : List UInt8 → List UInt8
  | [] => []
  | b :: rest =>
    if (if shown then Utf8.isContinuation b || Stage.text.shows b else stage.shows b) then
      b :: plainBytes (if Stage.isLead b then .text else stage) true rest
    else plainBytes (stage.next b) false rest

def plain (text : String) : String :=
  String.ofList (Utf8.decodeLossy (plainBytes .text false (Utf8.encode text.toList)))

def bold (text : String) : String :=
  "\x1b[1m" ++ text ++ "\x1b[0m"

end ApiReference.Text.Terminal
