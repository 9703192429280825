import SensorBoard.Lookup.Inquiry
import SensorBoard.Sensor.History
import SensorBoard.Sensor.Reading

/-!
# Gateways

A gateway answers the four lookups. The answers are functions of the questions: whoever asks twice
while nothing changes is told the same.
-/

namespace SensorBoard

/-- The answers of a device server. -/
structure Gateway where
  devices : Except LookupError (List String)
  sensors (device : String) : Except LookupError (List String)
  value (device resource : String) : Except LookupError Reading
  history (device resource : String) : Except LookupError (List HistoryPoint)

/-- The error of a history that could not be decoded. -/
def LookupError.ofHistoryFault (fault : HistoryFault) : LookupError := .undecodable fault.message

/-- The points of a written history, or the error of the lookup that brought it. -/
def LookupError.pointsOf (entries : List HistoryEntry) : Except LookupError (List HistoryPoint) :=
  (History.decode entries).mapError ofHistoryFault

end SensorBoard
