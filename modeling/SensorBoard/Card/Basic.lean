import SensorBoard.Card.Key
import SensorBoard.Sensor.History
import SensorBoard.Sensor.Record

/-!
# Cards

One card shows one sensor. A card that is no lamp is closed, opened, or opening: then a ticket says
which request for its history is still awaited, and an answer to any other request is not taken.
A history that was taken is kept, so that the card opens at once the next time. A lamp never opens;
it is switched instead.
-/

namespace SensorBoard

/-- How far a card is opened. -/
inductive CardState where
  | closed
  | opening (ticket : Nat)
  | opened
  deriving DecidableEq

/-- What is drawn of a history. -/
structure Chart where
  label : String
  units : String
  points : List HistoryPoint

def Chart.toJson (c : Chart) : Json :=
  .object [("label", .text c.label), ("units", .text c.units),
    ("series", .list (c.points.map fun p => .list [.number (.int p.timestamp), .double p.value]))]

/-- One sensor on the board. -/
structure Card where
  device : String
  sensor : SensorRecord
  rule : Option Rule
  /-- The history, once it was fetched. -/
  history : Option (List HistoryPoint)
  state : CardState
  /-- Whether the lamp is on, if the card is one. -/
  lamp : Option Bool

namespace Card

/-- The card of a sensor as the survey found it. -/
def ofRecord (device : String) (sensor : SensorRecord) (rule : Option Rule) : Card where
  device := device
  sensor := sensor
  rule := rule
  history := none
  state := .closed
  lamp := if sensor.quantity = .bulb then some sensor.value.isOn else none

/-- What tells the card from the others. -/
def key (c : Card) : CardKey := ⟨c.device, c.sensor.id.raw⟩

def isOpen (c : Card) : Bool := c.state != .closed

def isLamp (c : Card) : Bool := c.lamp.isSome

/-- The units of the values, as the rule gives them. -/
def units (c : Card) : String :=
  match c.rule with
  | some rule => rule.units
  | none => ""

/-- The heading: the resource that the value was read from. -/
def heading (c : Card) : String := c.sensor.resource

/-- The text that is shown for the value: a lamp shows how it was switched last. -/
def display (c : Card) : String :=
  match c.lamp with
  | some true => "ON"
  | some false => "OFF"
  | none => c.sensor.value.display

/-- The chart of the history, if there is one. -/
def chart? (c : Card) : Option Chart :=
  c.history.map fun points => ⟨c.sensor.quantity.label, c.units, points⟩

def switch (c : Card) : Card := { c with lamp := c.lamp.map not }

/-- Starts to open: a card with a history is opened at once, any other awaits the answer to the
request with the ticket. -/
def beginOpen (ticket : Nat) (c : Card) : Card :=
  { c with state := if c.history.isSome then .opened else .opening ticket }

def close (c : Card) : Card := { c with state := .closed }

/-- Takes the history that the ticket was given for, if the card still waits for it. -/
def accept? (ticket : Nat) (points : List HistoryPoint) (c : Card) : Option Card :=
  if c.state = .opening ticket then some { c with history := some points, state := .opened }
  else none

/-- Gives up waiting for the history that the ticket was given for: the card is open all the same,
with nothing to draw. -/
def fail? (ticket : Nat) (c : Card) : Option Card :=
  if c.state = .opening ticket then some { c with state := .opened } else none

end Card

end SensorBoard
