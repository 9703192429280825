import SensorBoard.Text.Numeral

/-!
# Percent encoding

Texts as single segments of a path: every byte that would end or split a segment, every control
byte and every byte beyond ASCII is written as a percent sign and two upper-case hexadecimal
digits. Reading takes an escape of either case back to its byte and every other character as
itself, so a percent sign that starts no escape stays.
-/

namespace SensorBoard.Text.Percent

/-- The printable ASCII bytes that a segment may not hold as they are: space, double quote, number
sign, percent sign, slash, the angle brackets, question mark, backslash, grave accent and the
braces. -/
def reservedBytes : List UInt8 :=
  [0x20, 0x22, 0x23, 0x25, 0x2F, 0x3C, 0x3E, 0x3F, 0x5C, 0x60, 0x7B, 0x7D]

/-- Must the byte be escaped? -/
def isReserved (b : UInt8) : Bool :=
  decide (b < 0x20) || decide (0x7F ≤ b) || reservedBytes.contains b

def escape (b : UInt8) : List Char :=
  ['%', hexCharUpper (b.toNat / 16), hexCharUpper (b.toNat % 16)]

def encodeByte (b : UInt8) : List Char := if isReserved b then escape b else [Char.ofNat b.toNat]

/-- The bytes of a text in UTF-8. -/
def utf8 (s : String) : List UInt8 := s.toUTF8.data.toList

/-- A text as one segment of a path. -/
def encode (s : String) : String := String.ofList ((utf8 s).flatMap encodeByte)

/-- The bytes that a segment stands for. -/
def decodeBytes : List Char → List UInt8
  | '%' :: a :: b :: rest =>
    match hexValue? a, hexValue? b with
    | some x, some y => UInt8.ofNat (16 * x + y) :: decodeBytes rest
    | _, _ => 0x25 :: decodeBytes (a :: b :: rest)
  | c :: rest => String.utf8EncodeChar c ++ decodeBytes rest
  | [] => []

/-- The text that a segment stands for, unless its bytes are no UTF-8. -/
def decode? (s : String) : Option String :=
  String.fromUTF8? (ByteArray.mk (decodeBytes s.toList).toArray)

end SensorBoard.Text.Percent
