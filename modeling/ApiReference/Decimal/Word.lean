/-!
# Numbers of 64 Bits

The bounds that the formats set to integers.
-/

namespace ApiReference.Decimal.Word

/-- One more than the largest natural number of 64 bits. -/
def limit : Nat := 0x10000000000000000

/-- One more than the largest integer of 64 bits with a sign. -/
def signedLimit : Nat := 0x8000000000000000

end ApiReference.Decimal.Word
