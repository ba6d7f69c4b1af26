import ApiReference.Text.Split
import ApiReference.Text.Utf8

/-!
# Form Encoding

A form-encoded text is cut at ampersands, and each piece that is not empty at its first equals sign.
In names and values a plus is a space and `%` with two hexadecimal digits is a byte.  An escape that
is not one stays as it stands, and bytes that are no UTF-8 are replaced.
-/

namespace ApiReference.Text.Form

def hexValue? (b : UInt8) : Option UInt8 :=
  if 0x30 ≤ b ∧ b ≤ 0x39 then some (b - 0x30)
  else if 0x41 ≤ b ∧ b ≤ 0x46 then some (b - 0x37)
  else if 0x61 ≤ b ∧ b ≤ 0x66 then some (b - 0x57)
  else none

/-- A byte outside an escape: a plus is a space. -/
def plain (b : UInt8) : UInt8 :=
  if b = 0x2b then 0x20 else b

/-- The bytes that pluses and percent escapes stand for. -/
def unescape : List UInt8 → List UInt8
  | b :: high :: low :: rest =>
    if b = 0x25 then
      match hexValue? high, hexValue? low with
      | some h, some l => (h * 16 + l) :: unescape rest
      | _, _ => b :: unescape (high :: low :: rest)
    else plain b :: unescape (high :: low :: rest)
  | b :: rest => plain b :: unescape rest
  | [] => []

def decodePart (bytes : List UInt8) : String :=
  String.ofList (Utf8.decodeLossy (unescape bytes))

def decodePair (piece : List UInt8) : String × String :=
  match splitFirst 0x3d piece with
  | some (name, value) => (decodePart name, decodePart value)
  | none => (decodePart piece, "")

/-- The names and values of a form-encoded text, in order. -/
def decode (text : String) : List (String × String) :=
  ((splitAll 0x26 (Utf8.encode text.toList)).filter fun piece ↦ !piece.isEmpty).map decodePair

end ApiReference.Text.Form
