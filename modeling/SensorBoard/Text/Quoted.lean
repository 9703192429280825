import SensorBoard.Text.Blank
import SensorBoard.Text.Combining
import SensorBoard.Text.Numeral
import SensorBoard.Text.Unassigned

/-!
# Quoted texts

The form in which a text from a remote answer is shown inside a message: between double quotes,
with everything that a reader could not see or could take for something else written as an escape.
-/

namespace SensorBoard.Text

/-- The control, format, private-use and separator characters (general categories Cc, Cf, Co, Zl,
Zp and Zs) other than the space, as ascending closed ranges. -/
def unseenRanges : List (Nat × Nat) :=
  [(0x0, 0x1F), (0x7F, 0xA0), (0xAD, 0xAD), (0x600, 0x605), (0x61C, 0x61C), (0x6DD, 0x6DD),
   (0x70F, 0x70F), (0x890, 0x891), (0x8E2, 0x8E2), (0x1680, 0x1680), (0x180E, 0x180E),
   (0x2000, 0x200F), (0x2028, 0x202F), (0x205F, 0x2064), (0x2066, 0x206F), (0x3000, 0x3000),
   (0xE000, 0xF8FF), (0xFEFF, 0xFEFF), (0xFFF9, 0xFFFB), (0x110BD, 0x110BD), (0x110CD, 0x110CD),
   (0x13430, 0x1343F), (0x1BCA0, 0x1BCA3), (0x1D173, 0x1D17A), (0xE0001, 0xE0001),
   (0xE0020, 0xE007F), (0xF0000, 0xFFFFD), (0x100000, 0x10FFFD)]

/-- The letters that only fill the place of a letter and are drawn as nothing: with them the lists
hold every character of the property Default_Ignorable_Code_Point. -/
def fillerRanges : List (Nat × Nat) := [(0x115F, 0x1160), (0x3164, 0x3164), (0xFFA0, 0xFFA0)]

/-- Can the character be shown as it is? -/
def isShown (c : Char) : Bool :=
  let n := c.toNat
  if n < 0x7F then decide (0x20 ≤ n)
  else
    !(inRanges unseenRanges n || inRanges fillerRanges n || inRanges combiningRanges n ||
      inRanges unassignedRanges n)

/-- The letter that stands behind a backslash for a character with a short escape. -/
def escapeLetter? : Char → Option Char
  | '\x00' => some '0'
  | '\t' => some 't'
  | '\n' => some 'n'
  | '\r' => some 'r'
  | '"' => some '"'
  | '\\' => some '\\'
  | _ => none

/-- The escape that names a character by its code point. -/
def codePointEscape (c : Char) : List Char :=
  ['\\', 'u', '\x7b'] ++ hexadecimal c.toNat ++ ['\x7d']

def quotedChar (c : Char) : List Char :=
  match escapeLetter? c with
  | some l => ['\\', l]
  | none => if isShown c then [c] else codePointEscape c

/-- A text between double quotes, with its hidden and its ambiguous characters escaped. -/
def quoted (s : String) : String := String.ofList ('"' :: s.toList.flatMap quotedChar ++ ['"'])

example : isShown 'é' = true ∧ isShown '\u0301' = false ∧ isShown '\u200d' = false ∧
    isShown '\uFF9E' = true ∧ isShown '\uFFA0' = false := by
  decide +kernel

end SensorBoard.Text
