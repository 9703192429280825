/-!
# Words

Integers of 64 bits, without a sign and with one.
-/

namespace SensorBoard.Decimal

/-- The number of values of a word. -/
def wordSize : Nat := 18446744073709551616

/-- The number of negative values of a word with a sign. -/
def wordHalf : Nat := 9223372036854775808

/-- Does an integer fit a word with a sign? -/
def fitsWord (i : Int) : Bool := decide (-(wordHalf : Int) ≤ i) && decide (i < wordHalf)

end SensorBoard.Decimal
