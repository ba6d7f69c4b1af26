import ApiReference.Text.Digits
import ApiReference.Text.Quoted
import ApiReference.Text.Split

/-!
# Socket Addresses

An address of version 4 is four decimal numbers, one of version 6 is eight groups of hexadecimal
digits of which one run of zeros may be left out, in brackets and with an optional scope.  A port
follows either.  A version 6 address is shown with its longest run of zero groups left out.
-/

namespace ApiReference.Net

open Text

/-- A listening address. -/
inductive SocketAddress where
  | v4 (octets : List Nat) (port : Nat)
  | v6 (groups : List Nat) (scope : Nat) (port : Nat)
  deriving Repr, DecidableEq

/-! ## Reading -/

/-- The digits of a base at the front, at most `width` of them. -/
def takeNumber (digitOf : Char → Option Nat) (base : Nat) (width : Nat) (text : List Char) :
    Option (Nat × Nat × List Char) :=
  let digits := (text.take width).takeWhile fun c ↦ (digitOf c).isSome
  if digits.isEmpty then none
  else some (digits.foldl (fun n c ↦ n * base + (digitOf c).getD 0) 0, digits.length,
    text.drop digits.length)

def decimalDigit? (c : Char) : Option Nat :=
  if c.isDigit then some (digitValue c) else none

/-- One number of a version 4 address: at most 255, without leading zeros. -/
def octet? (text : List Char) : Option (Nat × List Char) := do
  let (value, length, rest) ← takeNumber decimalDigit? 10 4 text
  if 3 < length ∨ 255 < value ∨ (1 < length ∧ text.head? = some '0') then none
  else some (value, rest)

def octets? (text : List Char) : Option (List Nat × List Char) := do
  let (a, rest) ← octet? text
  let (b, rest) ← octet? (← dropBeginning? ['.'] rest)
  let (c, rest) ← octet? (← dropBeginning? ['.'] rest)
  let (d, rest) ← octet? (← dropBeginning? ['.'] rest)
  return ([a, b, c, d], rest)

/-- A number below `limit` in decimal digits. -/
def decimalBelow? (limit : Nat) (text : List Char) : Option (Nat × List Char) := do
  let (value, _, rest) ← takeNumber decimalDigit? 10 text.length text
  if value < limit then some (value, rest) else none

/-- A port with its colon. -/
def port? (text : List Char) : Option (Nat × List Char) := do
  decimalBelow? 65536 (← dropBeginning? [':'] text)

def group? (text : List Char) : Option (Nat × List Char) := do
  let (value, length, rest) ← takeNumber hexValue? 16 5 text
  if 4 < length then none else some (value, rest)

/-- The two groups that a version 4 address stands for. -/
def groupsOfOctets : List Nat → List Nat
  | [a, b, c, d] => [a * 256 + b, c * 256 + d]
  | _ => []

/-- Up to `limit` groups with colons between them, the last two of which may be written as a
version 4 address.  It also says whether they were. -/
def groups : (limit : Nat) → (first : Bool) → List Char → List Nat × Bool × List Char
  | 0, _, text => ([], false, text)
  | limit + 1, first, text =>
    match if first then some text else dropBeginning? [':'] text with
    | none => ([], false, text)
    | some start =>
      match if 1 ≤ limit then octets? start else none with
      | some (octets, rest) => (groupsOfOctets octets, true, rest)
      | none =>
        match group? start with
        | none => ([], false, text)
        | some (group, rest) =>
          let (more, embedded, rest) := groups limit false rest
          (group :: more, embedded, rest)

def address6? (text : List Char) : Option (List Nat × List Char) := do
  let (head, embedded, rest) := groups 8 true text
  if head.length = 8 then return (head, rest)
  else if embedded then none
  else
    let rest ← dropBeginning? [':', ':'] rest
    let (tail, _, rest) := groups (8 - (head.length + 1)) true rest
    return (head ++ List.replicate (8 - head.length - tail.length) 0 ++ tail, rest)

/-- A scope with its percent sign. -/
def scope? (text : List Char) : Option (Nat × List Char) := do
  decimalBelow? 4294967296 (← dropBeginning? ['%'] text)

namespace SocketAddress

/-- A version 4 address and port as the whole text. -/
def ofText4? (text : List Char) : Option SocketAddress := do
  let (octets, rest) ← octets? text
  let (port, rest) ← port? rest
  if rest.isEmpty then some (.v4 octets port) else none

/-- A version 6 address and port as the whole text. -/
def ofText6? (text : List Char) : Option SocketAddress := do
  let (groups, rest) ← address6? (← dropBeginning? ['['] text)
  let (scope, rest) := (scope? rest).getD (0, rest)
  let (port, rest) ← port? (← dropBeginning? [']'] rest)
  if rest.isEmpty then some (.v6 groups scope port) else none

def ofText? (text : String) : Option SocketAddress :=
  ofText4? text.toList <|> ofText6? text.toList

/-- What is said of a text that spells no address. -/
def invalidText : String := "invalid socket address syntax"

def port : SocketAddress → Nat
  | .v4 _ port => port
  | .v6 _ _ port => port

def isV4 : SocketAddress → Bool
  | .v4 _ _ => true
  | .v6 _ _ _ => false

/-! ## Showing -/

/-- The start and the length of the first longest run of zeros. -/
def longestZeroRun (groups : List Nat) : Nat × Nat :=
  go groups 0 (0, 0) (0, 0)
where
  go : List Nat → Nat → Nat × Nat → Nat × Nat → Nat × Nat
    | [], _, _, longest => longest
    | group :: rest, index, current, longest =>
      if group = 0 then
        let current := if current.2 = 0 then (index, 1) else (current.1, current.2 + 1)
        go rest (index + 1) current (if longest.2 < current.2 then current else longest)
      else go rest (index + 1) (0, 0) longest

def groupText (groups : List Nat) : String :=
  String.intercalate ":" (groups.map fun group ↦ String.ofList (hexDigits group))

def octetText (octets : List Nat) : String :=
  String.intercalate "." (octets.map toString)

/-- A version 6 address.  One that only embeds a version 4 address shows it as such. -/
def address6Text (groups : List Nat) : String :=
  match groups with
  | [0, 0, 0, 0, 0, 0xffff, high, low] =>
    "::ffff:" ++ octetText [high / 256, high % 256, low / 256, low % 256]
  | groups =>
    let (start, length) := longestZeroRun groups
    if 1 < length then
      groupText (groups.take start) ++ "::" ++ groupText (groups.drop (start + length))
    else groupText groups

/-- The address without port and scope. -/
def ipText : SocketAddress → String
  | .v4 octets _ => octetText octets
  | .v6 groups _ _ => address6Text groups

def text : SocketAddress → String
  | .v4 octets port => octetText octets ++ ":" ++ toString port
  | .v6 groups scope port =>
    "[" ++ address6Text groups ++ (if scope = 0 then "" else "%" ++ toString scope) ++ "]:" ++
      toString port

end SocketAddress

end ApiReference.Net
