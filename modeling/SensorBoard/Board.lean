import SensorBoard.Grid.Basic
import SensorBoard.Survey

/-!
# The board

The board is what one survey found together with what clicks have made of it: the cards, the grid
and the one panel. A click on a lamp switches it. A click on any other card takes down the panel and
closes every card, and opens the clicked one unless it was open. A history that is not kept yet has
to be fetched outside; the board hands out a request for it, and takes the answer only while the
card still waits for that very request.
-/

namespace SensorBoard

structure Panel where
  owner : CardKey
  visible : Bool
  chart : Option Chart

/-- A history that has to be fetched for a card that is opening. -/
structure HistoryRequest where
  key : CardKey
  resource : String
  ticket : Nat
  deriving DecidableEq

/-- What a click has done. -/
inductive ToggleOutcome where
  /-- There is no such card. -/
  | unknown
  | switched (on : Bool)
  | closed
  /-- The panel is placed and drawn. -/
  | opened (placement : Placement) (slot : Nat)
  /-- The panel is placed, and the history is still to be fetched. -/
  | opening (placement : Placement) (slot : Nat) (request : HistoryRequest)

/-- What an answered request has done. -/
inductive Delivery where
  | rendered (chart : Chart)
  /-- The card waits for no answer, or for another one. -/
  | stale
  | failed (fault : Fault)

/-- The board. -/
structure Board where
  devices : DeviceMap
  cards : List Card
  grid : Grid
  panel : Option Panel
  /-- The ticket of the next opening, a word of 64 bits. -/
  nextTicket : Nat

namespace Board

/-- The board of a fresh dashboard: every card is closed. -/
def ofDashboard (d : Dashboard) : Board where
  devices := d.devices
  cards := d.cards
  grid := .ofKeys (d.cards.map Card.key)
  panel := none
  nextTicket := 1

def card? (b : Board) (key : CardKey) : Option Card := b.cards.find? fun c => c.key == key

/-- The card that is opened or opening. -/
def openCard? (b : Board) : Option Card := b.cards.find? Card.isOpen

/-- Puts a changed card back into its place. -/
def replaceCard (b : Board) (card : Card) : Board :=
  { b with cards := b.cards.map fun c => if c.key == card.key then card else c }

/-- The board with every card closed and without a panel. -/
def cleared (b : Board) : Board :=
  { b with cards := b.cards.map Card.close, grid := b.grid.withoutDetail, panel := none }

/-- The ticket that follows another. Once all words are spent, they are spent anew from zero. -/
def ticketAfter (ticket : Nat) : Nat := (ticket + 1) % Decimal.wordSize

/-- Opens a card of a cleared board. -/
def openCard (b : Board) (card : Card) (metrics : Metrics) : ToggleOutcome × Board :=
  match b.grid.openDetail card.key metrics with
  | (grid, none) => (.unknown, { b with grid := grid })
  | (grid, some (placement, slot)) =>
    -- the ticket is spent even if the history is kept and no request is made
    let ticket := b.nextTicket
    let board := { b.replaceCard (card.beginOpen ticket) with
      grid := grid
      panel := some ⟨card.key, true, card.chart?⟩
      nextTicket := ticketAfter ticket }
    if card.history.isSome then (.opened placement slot, board)
    else (.opening placement slot ⟨card.key, card.sensor.resource, ticket⟩, board)

/-- A click on a card. -/
def toggle (b : Board) (key : CardKey) (metrics : Metrics) : ToggleOutcome × Board :=
  match b.card? key with
  | none => (.unknown, b)
  | some card =>
    match card.lamp with
    -- a lamp changes in its place, and nothing else on the board does
    | some on => (.switched !on, b.replaceCard card.switch)
    | none =>
      if card.isOpen then (.closed, b.cleared) else b.cleared.openCard card metrics

/-- The panel, if the card owns it. -/
def panelOf? (b : Board) (key : CardKey) : Option Panel :=
  b.panel.filter fun panel => panel.owner == key

/-- Takes the answer to a request. -/
def deliver (b : Board) (request : HistoryRequest)
    (answer : Except LookupError (List HistoryPoint)) : Delivery × Board :=
  -- a panel of another card, or none, means that the card was closed in the meantime
  match b.card? request.key, b.panelOf? request.key with
  | some card, some panel =>
    match answer with
    | .ok points =>
      match card.accept? request.ticket points with
      | none => (.stale, b)
      | some card =>
        let chart : Chart := ⟨card.sensor.quantity.label, card.units, points⟩
        let panel := { panel with chart := some chart }
        (.rendered chart, { b.replaceCard card with panel := some panel })
    | .error cause =>
      match card.fail? request.ticket with
      | none => (.stale, b)
      | some card =>
        (.failed (.sensorHistory request.key.device request.resource cause), b.replaceCard card)
  | _, _ => (.stale, b)

end Board

end SensorBoard
