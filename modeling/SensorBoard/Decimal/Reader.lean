import SensorBoard.Decimal.Word
import SensorBoard.Text.Numeral

/-!
# Read doubles

Two ways from decimal digits to a double. `toFloat` rounds the decimal value to the nearest double;
`readFloat?` reads free text with it. `scaled?` is the quick way of data formats: the leading digits
that fit 64 bits become a double, and one multiplication or division by a power of ten follows.
-/

namespace SensorBoard.Decimal

open Text

def infinity : Float := Float.ofBits 0x7FF0000000000000

/-- A double that is no number. -/
def notANumber : Float := Float.ofBits 0x7FF8000000000000

/-- The double nearest to `digits * 10 ^ exponent`. -/
def toFloat (digits : Nat) (exponent : Int) : Float :=
  Float.ofScientific digits (decide (exponent < 0)) exponent.natAbs

/-- The written parts of a decimal number without its sign. -/
structure Parts where
  whole : List Char
  fraction : List Char
  exponent : Int

/-- The value of the written parts. -/
def Parts.value (p : Parts) : Float :=
  toFloat (digitsValue (p.whole ++ p.fraction)) (p.exponent - p.fraction.length)

/-- The digits after a point, if there is one. -/
def splitFraction : List Char → List Char × List Char
  | '.' :: cs => (cs.takeWhile isDigit, cs.dropWhile isDigit)
  | cs => ([], cs)

/-- The exponent that ends a text; nothing at all is the exponent zero. -/
def finalExponent? : List Char → Option Int
  | [] => some 0
  | 'e' :: cs => readInt? cs
  | 'E' :: cs => readInt? cs
  | _ => none

/-- Digits with an optional point among or beside them, and an optional exponent. -/
def readParts? (cs : List Char) : Option Parts :=
  let whole := cs.takeWhile isDigit
  let (fraction, rest) := splitFraction (cs.dropWhile isDigit)
  if whole = [] ∧ fraction = [] then none
  else (finalExponent? rest).map fun e => ⟨whole, fraction, e⟩

/-- A number without its sign: a name of infinity or of no number in any case, or digits. -/
def readMagnitude? (cs : List Char) : Option Float :=
  let word := String.ofList (cs.map Char.toLower)
  if word = "inf" ∨ word = "infinity" then some infinity
  else if word = "nan" then some notANumber
  else (readParts? cs).map Parts.value

/-- Reads a double from free text: at most one sign, and a number right behind it. -/
def readFloat? : List Char → Option Float
  | '+' :: cs => readMagnitude? cs
  | '-' :: cs => (readMagnitude? cs).map fun x => -x
  | cs => readMagnitude? cs

/-! ## Quick reading -/

/-- Takes digits into a significand for as long as it fits 64 bits, and counts those taken and
those left. -/
def takeDigits : Nat → List Char → Nat × Nat × Nat
  | significand, [] => (significand, 0, 0)
  | significand, c :: cs =>
    let next := 10 * significand + digitValue c
    if next < wordSize then
      let (s, taken, left) := takeDigits next cs
      (s, taken + 1, left)
    else (significand, 0, cs.length + 1)

/-- A power of ten as a double. -/
def powerOfTen (n : Nat) : Float := Float.ofScientific 1 false n

/-- Scales a double by a power of ten, in steps of at most 308 places; `none` is overflow. Three
steps bring any significand of 64 bits to zero. -/
def scale? : Nat → Float → Int → Option Float
  | 0, _, _ => some 0.0
  | steps + 1, x, exponent =>
    if exponent.natAbs ≤ 308 then
      if 0 ≤ exponent then
        let y := x * powerOfTen exponent.natAbs
        if y.isInf then none else some y
      else some (x / powerOfTen exponent.natAbs)
    else if x == 0.0 then some x
    else if 0 ≤ exponent then none
    else scale? steps (x / powerOfTen 308) (exponent + 308)

/-- The double of the written parts by quick reading; `none` when it is too large. -/
def Parts.scaled? (p : Parts) : Option Float :=
  let (significand, _, left) := takeDigits 0 p.whole
  let (significand, taken, _) := takeDigits significand p.fraction
  scale? 4 (Float.ofNat significand) (p.exponent + left - taken)

end SensorBoard.Decimal
