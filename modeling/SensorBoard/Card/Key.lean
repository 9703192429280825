/-!
# Card keys

A card is known by its device and the name of its sensor.
-/

namespace SensorBoard

/-- What tells one card from the others. -/
structure CardKey where
  device : String
  sensor : String
  deriving DecidableEq

end SensorBoard
