/-!
# Numerals

Digits in base ten and sixteen, the decimal text of an integer, and the reading of decimal
integers: an optional single sign and at least one ASCII digit.
-/

namespace SensorBoard.Text

/-- Is the character an ASCII decimal digit? -/
def isDigit (c : Char) : Bool := decide ('0' ≤ c) && decide (c ≤ '9')

def digitValue (c : Char) : Nat := c.toNat - 48

/-- The decimal digit of a value below ten. -/
def digitChar (d : Nat) : Char := Char.ofNat (48 + d)

/-- The decimal digits of a natural number, the leading one first. -/
def decimal (n : Nat) : List Char :=
  if n < 10 then [digitChar n] else decimal (n / 10) ++ [digitChar (n % 10)]
termination_by n
decreasing_by exact Nat.div_lt_self (by omega) (by omega)

/-- The decimal digits of an integer, with a minus in front of a negative one. -/
def decimalInt (i : Int) : List Char :=
  if i < 0 then '-' :: decimal i.natAbs else decimal i.natAbs

/-- The decimal text of a natural number. -/
def natText (n : Nat) : String := String.ofList (decimal n)

def intText (i : Int) : String := String.ofList (decimalInt i)

/-- The number that a list of digits writes in base ten. -/
def digitsValue (cs : List Char) : Nat := cs.foldl (fun v c => 10 * v + digitValue c) 0

/-- Reads a natural number: at least one character, and all of them digits. -/
def readNat? (cs : List Char) : Option Nat :=
  if cs ≠ [] ∧ cs.all isDigit = true then some (digitsValue cs) else none

/-- Reads an integer: a natural number after at most one sign. -/
def readInt? : List Char → Option Int
  | '+' :: cs => (readNat? cs).map Int.ofNat
  | '-' :: cs => (readNat? cs).map fun n => -Int.ofNat n
  | cs => (readNat? cs).map Int.ofNat

/-- The value of a hexadecimal digit of either case. -/
def hexValue? (c : Char) : Option Nat :=
  if isDigit c then some (digitValue c)
  else if 'a' ≤ c ∧ c ≤ 'f' then some (c.toNat - 87)
  else if 'A' ≤ c ∧ c ≤ 'F' then some (c.toNat - 55)
  else none

/-- The lower-case hexadecimal digit of a value below sixteen. -/
def hexChar (d : Nat) : Char := if d < 10 then digitChar d else Char.ofNat (87 + d)

/-- The upper-case hexadecimal digit of a value below sixteen. -/
def hexCharUpper (d : Nat) : Char := if d < 10 then digitChar d else Char.ofNat (55 + d)

/-- The hexadecimal digits of a natural number, in lower case and without leading zeros. -/
def hexadecimal (n : Nat) : List Char :=
  if n < 16 then [hexChar n] else hexadecimal (n / 16) ++ [hexChar (n % 16)]
termination_by n
decreasing_by exact Nat.div_lt_self (by omega) (by omega)

/-- The character with a code point, unless the number is a surrogate or too large. -/
def charOf? (n : Nat) : Option Char :=
  if h : n.isValidChar then some (Char.ofNatAux n h) else none

end SensorBoard.Text
