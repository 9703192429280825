import SensorBoard.Lookup.Basic

/-!
# Faults

What can go wrong between the device server and the board. None of these is tried again: the board
stays empty, or the panel without its chart, and a banner says so.
-/

namespace SensorBoard

/-- A stage of loading that failed. -/
inductive Fault where
  | deviceList (cause : LookupError)
  | noDevices
  | sensorList (device : String) (cause : LookupError)
  | sensorValue (device resource : String) (cause : LookupError)
  | sensorHistory (device resource : String) (cause : LookupError)

namespace Fault

def cause? : Fault → Option LookupError
  | deviceList cause => some cause
  | noDevices => none
  | sensorList _ cause => some cause
  | sensorValue _ _ cause => some cause
  | sensorHistory _ _ cause => some cause

def device? : Fault → Option String
  | deviceList _ => none
  | noDevices => none
  | sensorList device _ => some device
  | sensorValue device _ _ => some device
  | sensorHistory device _ _ => some device

def resource? : Fault → Option String
  | deviceList _ => none
  | noDevices => none
  | sensorList _ _ => none
  | sensorValue _ resource _ => some resource
  | sensorHistory _ resource _ => some resource

def message : Fault → String
  | deviceList cause => "device list request failed: " ++ cause.message
  | noDevices => "no devices registered"
  | sensorList device cause =>
    "sensor list request for device " ++ device ++ " failed: " ++ cause.message
  | sensorValue device resource cause =>
    "value request for " ++ device ++ "/" ++ resource ++ " failed: " ++ cause.message
  | sensorHistory device resource cause =>
    "history request for " ++ device ++ "/" ++ resource ++ " failed: " ++ cause.message

/-- The text of the banner that the page shows for a fault. -/
def banner : Fault → String
  | deviceList _ => "Error when loading device list!"
  | noDevices => "Error when loading device list!"
  | sensorList _ _ => "Error when loading sensors list!"
  | sensorValue _ _ _ => "Error when loading sensor value!"
  | sensorHistory _ _ _ => "Error when loading sensor statistics!"

end Fault

end SensorBoard
