import SensorBoard.Decimal.Reader
import SensorBoard.Json.Printer
import SensorBoard.Text.Blank
import SensorBoard.Text.Quoted

/-!
# Histories

The history of a sensor comes as a list of objects, each with a time in seconds as the name of its
first member and the value there. Times become milliseconds in 64 bits. Values are numbers, or
texts that read as one, if need be with commas taken for points.
-/

namespace SensorBoard

/-- One point of a history: milliseconds, and the value then. -/
structure HistoryPoint where
  timestamp : Int
  value : Float

/-- One entry of a written history: its members in ascending order of their names. -/
abbrev HistoryEntry : Type := List (String × Json)

/-- Why an entry of a history could not be decoded. -/
inductive HistoryFault where
  | badTimestamp (key : String)
  | outOfRange (seconds : Int)
  | nonNumeric (value : Json)

namespace HistoryFault

def message : HistoryFault → String
  | badTimestamp key => "bad history timestamp " ++ Text.quoted key
  | outOfRange seconds => "history timestamp " ++ Text.intText seconds ++ " out of range"
  | nonNumeric value => "non-numeric history value " ++ value.render

end HistoryFault

namespace History

/-- The seconds that a name writes: a decimal integer of 64 bits between blanks. -/
def seconds? (key : String) : Option Int :=
  (Text.readInt? (Text.trimmed key.toList)).filter Decimal.fitsWord

/-- The number that a text writes between blanks, first as it is and then with points for commas. -/
def textValue? (s : String) : Option Float :=
  let chars := Text.trimmed s.toList
  (Decimal.readFloat? chars).or
    (Decimal.readFloat? (chars.map fun c => if c = ',' then '.' else c))

/-- The number that a value is or writes. -/
def numeric? : Json → Option Float
  | .number n => some n.toFloat
  | .text s => textValue? s
  | _ => none

/-- The point of a name and its value. -/
def decodePoint (key : String) (value : Json) : Except HistoryFault HistoryPoint :=
  match seconds? key with
  | none => .error (.badTimestamp key)
  | some seconds =>
    if Decimal.fitsWord (1000 * seconds) then
      match numeric? value with
      | some x => .ok ⟨1000 * seconds, x⟩
      | none => .error (.nonNumeric value)
    else .error (.outOfRange seconds)

/-- The points of the entries in their order. Of an entry only the first member counts, and an empty
one counts for nothing; the first faulty entry is the fault of the whole. -/
def decode : List HistoryEntry → Except HistoryFault (List HistoryPoint)
  | [] => .ok []
  | [] :: entries => decode entries
  | ((key, value) :: _) :: entries => do
    let point ← decodePoint key value
    let points ← decode entries
    return point :: points

/-- The entries that a JSON value lists: every item has to be an object. -/
def entries? (j : Json) : Option (List HistoryEntry) := do
  (← j.items?).mapM fun
    | .object members => some members
    | _ => none

end History

end SensorBoard
