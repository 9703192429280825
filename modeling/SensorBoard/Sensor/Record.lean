import SensorBoard.Sensor.Reading
import SensorBoard.Sensor.Rule

/-!
# Records

What is known of sensors and devices after a successful survey.
-/

namespace SensorBoard

/-- One sensor as the last survey found it. -/
structure SensorRecord where
  id : SensorId
  /-- The path of its value and its history within the device. -/
  resource : String
  quantity : Quantity
  value : SensorValue

/-- One device and its sensors. -/
structure DeviceRecord where
  name : String
  sensors : List SensorRecord

/-- Devices by name, in ascending order. -/
abbrev DeviceMap : Type := List (String × DeviceRecord)

def SensorRecord.toJson (r : SensorRecord) : Json :=
  .object [("id", .text r.id.raw), ("resource", .text r.resource), ("type", .text r.quantity.name),
    ("value", r.value.toJson)]

def DeviceRecord.toJson (d : DeviceRecord) : Json :=
  .object [("name", .text d.name), ("sensors", .list (d.sensors.map SensorRecord.toJson))]

/-- Devices as JSON: one member a device. -/
def DeviceMap.toJson (m : DeviceMap) : Json := .object (m.map fun e => (e.1, e.2.toJson))

end SensorBoard
