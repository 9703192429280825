import SensorBoard.Decimal.Style
import SensorBoard.Json.Basic

/-!
# JSON texts

The compact text of a JSON value: no blanks, members in their order, characters beyond ASCII as
they are.
-/

namespace SensorBoard.Json

open Text

/-- Doubles are written with the fewest digits that read back: with a point for leading exponents
from -5 to 15, else with a signed exponent. -/
def numberStyle : Decimal.Style where
  isPlain e := decide (-5 ≤ e) && decide (e ≤ 15)
  pointZero := true
  tie := .toEven

/-- The letter that stands behind a backslash for a character with a short escape. -/
def escapeLetter? : Char → Option Char
  | '"' => some '"'
  | '\\' => some '\\'
  | '\n' => some 'n'
  | '\r' => some 'r'
  | '\t' => some 't'
  | '\x08' => some 'b'
  | '\x0c' => some 'f'
  | _ => none

/-- One character inside a written string: control characters without a short escape are written by
their code points. -/
def stringChar (c : Char) : List Char :=
  match escapeLetter? c with
  | some l => ['\\', l]
  | none =>
    if c.toNat < 0x20 then
      ['\\', 'u', '0', '0', hexChar (c.toNat / 16), hexChar (c.toNat % 16)]
    else [c]

def stringText (s : String) : String :=
  String.ofList ('"' :: s.toList.flatMap stringChar ++ ['"'])

/-- A written number; a double that is not finite has no form of its own. -/
def numberText : JsonNumber → String
  | .int i => intText i
  | .float x => if x.isFinite then numberStyle.text x else "null"

mutual

def render : Json → String
  | .null => "null"
  | .bool b => if b then "true" else "false"
  | .number n => numberText n
  | .text s => stringText s
  | .list items => "[" ++ ",".intercalate (renderItems items) ++ "]"
  | .object members => "\x7b" ++ ",".intercalate (renderMembers members) ++ "\x7d"

/-- The texts of the items of a list. -/
def renderItems : List Json → List String
  | [] => []
  | j :: rest => render j :: renderItems rest

/-- The texts of the members of an object. -/
def renderMembers : List (String × Json) → List String
  | [] => []
  | (k, j) :: rest => (stringText k ++ ":" ++ render j) :: renderMembers rest

end

end SensorBoard.Json
