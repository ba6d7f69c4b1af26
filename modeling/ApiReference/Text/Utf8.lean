/-!
# UTF-8

Decoding works from one lead byte at a time.  A lead byte and the continuation bytes that fit it
make a character.  Where they break off, what was read so far is one fault: strict decoding refuses
it and lenient decoding puts one replacement character in its place.
-/

namespace ApiReference.Text.Utf8

/-- The bytes of a text. -/
def encode (cs : List Char) : List UInt8 :=
  cs.flatMap String.utf8EncodeChar

def length (cs : List Char) : Nat :=
  (encode cs).length

/-- Whether a byte continues a character. -/
def isContinuation (b : UInt8) : Bool :=
  0x80 ≤ b && b ≤ 0xbf

/-- What a lead byte promises: its share of the code point, how many bytes follow, and the bounds
of the first of them.  The bounds shut out overlong forms, surrogates and code points beyond the
last plane. -/
structure Lead where
  share : Nat
  following : Nat
  low : UInt8
  high : UInt8

/-- What a byte promises as the first of a character. -/
def lead? (b : UInt8) : Option Lead :=
  if b < 0x80 then some ⟨b.toNat, 0, 0x80, 0xbf⟩
  else if b < 0xc2 then none
  else if b < 0xe0 then some ⟨b.toNat - 0xc0, 1, 0x80, 0xbf⟩
  else if b = 0xe0 then some ⟨0, 2, 0xa0, 0xbf⟩
  else if b = 0xed then some ⟨0xd, 2, 0x80, 0x9f⟩
  else if b < 0xf0 then some ⟨b.toNat - 0xe0, 2, 0x80, 0xbf⟩
  else if b = 0xf0 then some ⟨0, 3, 0x90, 0xbf⟩
  else if b < 0xf4 then some ⟨b.toNat - 0xf0, 3, 0x80, 0xbf⟩
  else if b = 0xf4 then some ⟨4, 3, 0x80, 0x8f⟩
  else none

/-- Reads `following` continuation bytes onto `share`.  Without a character, the rest begins at the
first byte that did not fit. -/
def finish (share : Nat) : Nat → UInt8 → UInt8 → List UInt8 → Option Char × List UInt8
  | 0, _, _, rest => (some (Char.ofNat share), rest)
  | _ + 1, _, _, [] => (none, [])
  | following + 1, low, high, b :: rest =>
    if low ≤ b ∧ b ≤ high then
      finish (share * 64 + (b.toNat - 0x80)) following 0x80 0xbf rest
    else (none, b :: rest)

theorem length_finish_le (share following : Nat) (low high : UInt8) (bytes : List UInt8) :
    (finish share following low high bytes).2.length ≤ bytes.length := by
  induction following generalizing share low high bytes with
  | zero => simp [finish]
  | succ following ih =>
    cases bytes with
    | nil => simp [finish]
    | cons b rest =>
      simp only [finish]
      split
      · exact Nat.le_succ_of_le (ih ..)
      · simp

/-- The character that begins the bytes `b :: rest`, if there is one, and the bytes after it. -/
def next (b : UInt8) (rest : List UInt8) : Option Char × List UInt8 :=
  match lead? b with
  | none => (none, rest)
  | some lead => finish lead.share lead.following lead.low lead.high rest

theorem length_next_le (b : UInt8) (rest : List UInt8) :
    (next b rest).2.length ≤ rest.length := by
  unfold next
  split
  · simp
  · exact length_finish_le ..

/-- The characters of the bytes, or the fault `none` where a character should be. -/
def scan : List UInt8 → List (Option Char)
  | [] => []
  | b :: rest =>
    have := length_next_le b rest
    (next b rest).1 :: scan (next b rest).2
  termination_by bytes => bytes.length

/-- The text that the bytes spell, if every byte belongs to a character. -/
def decode? (bytes : List UInt8) : Option (List Char) :=
  (scan bytes).mapM id

/-- The text that the bytes spell, with U+FFFD for each fault. -/
def decodeLossy (bytes : List UInt8) : List Char :=
  (scan bytes).map fun c? ↦ c?.getD '\ufffd'

end ApiReference.Text.Utf8
