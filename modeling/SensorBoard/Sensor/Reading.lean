import SensorBoard.Decimal.Style
import SensorBoard.Json.Reader
import SensorBoard.Sensor.Quantity

/-!
# Readings

The value of a sensor as the server gives it: a number, a flag or a text, and the quantity by a
loose word if it is reported at all.
-/

namespace SensorBoard

/-- The last known value of a sensor. -/
inductive SensorValue where
  | number (value : Float)
  | flag (value : Bool)
  | text (value : String)

namespace SensorValue

/-- The value as the state of a light switch. -/
def isOn : SensorValue → Bool
  | number x => x != 0.0
  | flag b => b
  | text s => ["ON", "1", "TRUE"].contains (Text.upper (Text.trim s))

/-- Shown numbers have the fewest digits that read back, all of them written out, and no point when
they are whole. -/
def numberStyle : Decimal.Style where
  isPlain _ := true
  pointZero := false
  tie := .up

/-- The text that is shown for a value. -/
def display : SensorValue → String
  | number x => numberStyle.text x
  | flag b => if b then "ON" else "OFF"
  | text s => s

def toJson : SensorValue → Json
  | number x => .double x
  | flag b => .bool b
  | text s => .text s

/-- A number, a flag or a text; nothing else is a value. -/
def ofJson? : Json → Option SensorValue
  | .number n => some (number n.toFloat)
  | .bool b => some (flag b)
  | .text s => some (text s)
  | _ => none

end SensorValue

/-- The answer to a question for a value. -/
structure Reading where
  reported : Option String
  value : SensorValue

namespace Reading

/-- The fields of a reading that have been read. -/
structure Draft where
  reported : Option (Option String)
  value : Option SensorValue

/-- The fields of a reading, the quantity first; it may be missing. -/
def fields : List (Json.Field Draft) :=
  [{ name := "type"
     isSet := fun d => d.reported.isSome
     read := fun d cs => do
       let (word, rest) ← Json.readOptionalText cs
       return ({ d with reported := some word }, rest)
     isOptional := true },
   { name := "value"
     isSet := fun d => d.value.isSome
     read := fun d cs => do
       let (j, rest) ← Json.readValue 1 cs
       match SensorValue.ofJson? j with
       | some v => return ({ d with value := some v }, rest)
       | none => .error .mismatched
     isOptional := false }]

def read : Reader Reading :=
  Json.readRecord fields ⟨none, none⟩ fun d => d.value.map fun v => ⟨d.reported.getD none, v⟩

def parse (s : String) : Except ReadFault Reading := Json.readWhole read s

/-- The reported word of a reading: missing, `null` or a text. -/
def reportedOf? : Option Json → Option (Option String)
  | none => some none
  | some .null => some none
  | some (.text s) => some (some s)
  | some _ => none

/-- The reading that a JSON value is: an object, or the list of the two fields. -/
def ofJson? : Json → Option Reading
  | .list [word, value] => do return ⟨← reportedOf? (some word), ← SensorValue.ofJson? value⟩
  | .object members => do
    return ⟨← reportedOf? (Keyed.find? "type" members),
      ← SensorValue.ofJson? (← Keyed.find? "value" members)⟩
  | _ => none

/-- The quantity of a reading under a rule: the reported one, unless it is missing or unknown. -/
def quantityOr (reading : Reading) (ruled : Quantity) : Quantity :=
  match reading.reported.map Quantity.ofReported with
  | none | some .unknown => ruled
  | some quantity => quantity

end Reading

end SensorBoard
