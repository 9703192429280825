import SensorBoard.Text.Blank

/-!
# Quantities

What a sensor measures. Servers report it by loose words.
-/

namespace SensorBoard

/-- What a sensor measures, which decides on icon and label. -/
inductive Quantity where
  | temperature
  | humidity
  | bulb
  | unknown
  deriving DecidableEq

namespace Quantity

/-- The quantity that a reported word means; blanks around it and the case of its ASCII letters do
not count. -/
def ofReported (word : String) : Quantity :=
  match Text.lower (Text.trim word) with
  | "temp" | "temperature" | "type" => .temperature
  | "humid" | "humidity" => .humidity
  | "bulb" | "light" => .bulb
  | _ => .unknown

def name : Quantity → String
  | temperature => "temperature"
  | humidity => "humidity"
  | bulb => "bulb"
  | unknown => "unknown"

/-- The label of a chart of the quantity. -/
def label : Quantity → String
  | unknown => "value"
  | quantity => quantity.name

end Quantity

end SensorBoard
