import SensorBoard.Card.Basic
import SensorBoard.Fault
import SensorBoard.Lookup.Gateway

/-!
# Surveys

A survey finds out what is to be shown, in three stages: the devices, the sensors of every device,
and the value of every sensor with a rule. A stage begins when the one before it is complete, and
the first failure ends the survey with nothing to show.
-/

namespace SensorBoard

/-- What a survey found. -/
structure Dashboard where
  devices : DeviceMap
  /-- One card for every sensor: the devices in their listed order, and the sensors of each in
  theirs. -/
  cards : List Card

/-- The number of sensors of all devices. -/
def Dashboard.sensorCount (d : Dashboard) : Nat :=
  (d.devices.flatMap fun e => e.2.sensors).length

/-- The sensors of a device that have a rule, in their listed order. -/
structure DeviceListing where
  name : String
  sensors : List (SensorId × Rule)

namespace Survey

/-- The texts of a list without repeats, each where it stands first; `seen` are not taken again. -/
def distinctFrom (seen : List String) : List String → List String
  | [] => []
  | s :: rest =>
    if seen.contains s then distinctFrom seen rest else s :: distinctFrom (s :: seen) rest

/-- The texts of a list without repeats, each where it stands first. -/
def distinct (texts : List String) : List String := distinctFrom [] texts

/-- The sensor of a listed name with its rule, if there is a rule for it. -/
def ruled? (rules : RuleTable) (raw : String) : Option (SensorId × Rule) :=
  (rules.lookup ⟨raw⟩).map fun rule => (⟨raw⟩, rule)

/-- The sensors of a device that are shown, out of those that are listed. -/
def listing (rules : RuleTable) (device : String) (listed : List String) : DeviceListing :=
  ⟨device, (distinct listed).filterMap (ruled? rules)⟩

/-- The record of a sensor whose value was read. -/
def record (id : SensorId) (rule : Rule) (reading : Reading) : SensorRecord :=
  ⟨id, rule.resourceFor id, reading.quantityOr rule.quantity, reading.value⟩

/-- The first stage: the devices, of which there has to be one. -/
def discover (gateway : Gateway) : Inquiry Fault (List String) :=
  -- a name that is listed twice is still one device
  (Inquiry.ask .devices (gateway.devices.mapError Fault.deviceList)).bind fun devices =>
    if devices = [] then .fail .noDevices else .pure (distinct devices)

/-- The second stage, for one device: its sensors. -/
def enumerate (rules : RuleTable) (gateway : Gateway) (device : String) :
    Inquiry Fault DeviceListing :=
  (Inquiry.ask (.sensors device)
    ((gateway.sensors device).mapError (Fault.sensorList device))).bind fun listed =>
      .pure (listing rules device listed)

/-- The third stage, for one sensor: its value. -/
def readSensor (gateway : Gateway) (device : String) (sensor : SensorId × Rule) :
    Inquiry Fault SensorRecord :=
  let resource := sensor.2.resourceFor sensor.1
  (Inquiry.ask (.value device resource)
    ((gateway.value device resource).mapError (Fault.sensorValue device resource))).bind
      fun reading => .pure (record sensor.1 sensor.2 reading)

/-- The third stage, for one device: the values of its sensors. -/
def readDevice (gateway : Gateway) (listing : DeviceListing) : Inquiry Fault DeviceRecord :=
  (Inquiry.each (readSensor gateway listing.name) listing.sensors).bind fun sensors =>
    .pure ⟨listing.name, sensors⟩

def cardsOf (rules : RuleTable) (device : DeviceRecord) : List Card :=
  device.sensors.map fun sensor => Card.ofRecord device.name sensor (rules.lookup sensor.id)

def assemble (rules : RuleTable) (records : List DeviceRecord) : Dashboard where
  devices := Keyed.ofList (records.map fun d => (d.name, d))
  cards := records.flatMap (cardsOf rules)

/-- The whole survey. -/
def run (rules : RuleTable) (gateway : Gateway) : Inquiry Fault Dashboard :=
  (discover gateway).bind fun devices =>
    (Inquiry.each (enumerate rules gateway) devices).bind fun listings =>
      (Inquiry.each (readDevice gateway) listings).bind fun records =>
        .pure (assemble rules records)

end Survey

end SensorBoard
