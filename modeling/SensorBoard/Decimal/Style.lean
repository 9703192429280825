import SensorBoard.Decimal.Shortest
import SensorBoard.Text.Numeral

/-!
# Written doubles

How the digits of a double are laid out. The digits are those of the shortest decimal; a `Style`
says where the positional form ends, whether a whole number keeps its point, and which of two
equally close decimals is taken.
-/

namespace SensorBoard.Decimal

open Text

/-- The decisions of one written form of doubles. -/
structure Style where
  /-- Exponents of the leading digit that are written positionally. -/
  isPlain : Int → Bool
  /-- A whole number is written with `.0` behind it. -/
  pointZero : Bool
  tie : Tie

/-- Digits with their point set, `exponent` places to the right of the last one. -/
def positional (pointZero : Bool) (digits : List Char) (exponent : Int) : List Char :=
  let point := digits.length + exponent
  if 0 ≤ exponent then
    digits ++ List.replicate exponent.toNat '0' ++ (if pointZero then ['.', '0'] else [])
  else if 0 < point then digits.take point.toNat ++ '.' :: digits.drop point.toNat
  else '0' :: '.' :: List.replicate (-point).toNat '0' ++ digits

/-- The first digit, a point before the others if there are any, and the exponent with its sign. -/
def exponential (digits : List Char) (leading : Int) : List Char :=
  let sign := if leading < 0 then '-' else '+'
  let fraction := if digits.length ≤ 1 then [] else '.' :: digits.drop 1
  digits.take 1 ++ fraction ++ 'e' :: sign :: decimal leading.natAbs

/-- The layout of a decimal in a style. -/
def Style.layout (style : Style) (d : Scientific) : List Char :=
  let digits := decimal d.digits
  let leading := digits.length + d.exponent - 1
  if style.isPlain leading then positional style.pointZero digits d.exponent
  else exponential digits leading

/-- The text of a double. Zero keeps its sign; what is no number is named. -/
def Style.text (style : Style) (x : Float) : String :=
  if x.isNaN then "NaN"
  else
    let bits := x.toBits
    let sign := if bits >>> 63 = 1 then "-" else ""
    if x.isInf then sign ++ "inf"
    else
      let binary := Binary.ofBits bits
      if binary.mantissa = 0 then sign ++ (if style.pointZero then "0.0" else "0")
      else sign ++ String.ofList (style.layout (binary.shortest style.tie))

end SensorBoard.Decimal
