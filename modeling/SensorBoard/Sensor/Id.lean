/-!
# Sensor identifiers

The server names a sensor by a dotted path such as `.3303.0`. The part before the first dot is the
device part, the part up to the second dot is the token of the object type, and everything behind
the second dot is the instance.
-/

namespace SensorBoard

/-- The name of a sensor within its device. -/
structure SensorId where
  raw : String
  deriving DecidableEq

namespace SensorId

/-- The part of a text before its first dot, and what follows that dot. -/
def cut : List Char → List Char × Option (List Char)
  | [] => ([], none)
  | c :: cs => if c = '.' then ([], some cs) else (c :: (cut cs).1, (cut cs).2)

/-- The part before the first dot; all of the name if there is none. -/
def devicePart (id : SensorId) : String := String.ofList (cut id.raw.toList).1

/-- The token of the object type: the part between the first two dots, unless it is empty. -/
def typeToken? (id : SensorId) : Option String :=
  match (cut id.raw.toList).2 with
  | none => none
  | some rest => if (cut rest).1 = [] then none else some (String.ofList (cut rest).1)

/-- Everything behind the second dot. -/
def instancePart? (id : SensorId) : Option String :=
  match (cut id.raw.toList).2 with
  | none => none
  | some rest => (cut rest).2.map String.ofList

end SensorId

end SensorBoard
