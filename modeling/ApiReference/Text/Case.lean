import ApiReference.Text.CaseTables
import ApiReference.Text.Cased

/-!
# Full Case Mapping

Lower and upper case of whole texts.  A capital sigma becomes a final sigma where a cased letter
stands before it and none after it, case-ignorable characters being skipped on both sides.
-/

namespace ApiReference.Text

/-- The lower-case form of one character, whatever stands around it. -/
def lowerChar (c : Char) : List Char :=
  if c.toNat < 0x80 then [c.toLower]
  else if c = 'İ' then ['i', '\u0307']
  else [Shift.apply lowerShifts c]

def upperChar (c : Char) : List Char :=
  if c.toNat < 0x80 then [c.toUpper]
  else match upperExpansions.find? fun entry ↦ entry.1 == c.toNat with
    | some (_, points) => points.map Char.ofNat
    | none => [Shift.apply upperShifts c]

/-- Whether the nearest character that is not case-ignorable is cased. -/
def nearestIsCased (cs : List Char) : Bool :=
  match cs.dropWhile isCaseIgnorable with
  | [] => false
  | c :: _ => isCased c

/-- Lower case of the characters `cs` that follow `before`, given in reverse. -/
def lowerAfter (before : List Char) : List Char → List Char
  | [] => []
  | c :: rest =>
    let lowered :=
      if c = 'Σ' then [if nearestIsCased before && !nearestIsCased rest then 'ς' else 'σ']
      else lowerChar c
    lowered ++ lowerAfter (c :: before) rest

def lower (text : String) : String :=
  String.ofList (lowerAfter [] text.toList)

def upper (text : String) : String :=
  String.ofList (text.toList.flatMap upperChar)

end ApiReference.Text
