import SensorBoard.Board
import SensorBoard.Json.Printer
import SensorBoard.Page.Markup

/-!
# Blocks

The blocks of the grid: one for every card, in the order of the slots, and one for the panel. The
chart of the panel is handed to the browser as JSON inside an attribute.
-/

namespace SensorBoard.Page

/-- The class of the picture for a quantity. -/
def icon : Quantity → String
  | .temperature => "fa-thermometer-three-quarters"
  | .humidity => "fa-tint"
  | .bulb => "fa-lightbulb-o"
  | .unknown => "fa-question"

/-- The classes of the outer element of a card; lamps have nothing to open. -/
def wrapperClasses (card : Card) : String :=
  "col-12 col-lg-3 col-md-4 col-sm-6 i-card-wrapper" ++
    if card.isLamp then ""
    else if card.isOpen then " i-card-details-open"
    else " i-card-details-hide"

/-- The classes of the inner element of a card. -/
def innerClasses (card : Card) : String := if card.isLamp then "i-card" else "i-card openedable"

def cardBlock (card : Card) : Markup :=
  [.markup ("<div class=\"" ++ wrapperClasses card ++ "\" data-device=\""), .text card.device,
   .markup "\" data-sensor=\"", .text card.sensor.id.raw,
   .markup ("\"><div class=\"" ++ innerClasses card ++
     "\"><div class=\"i-card-heading\"><h1 class=\"h4 i-card-heading-text\">"),
   .text card.heading,
   .markup ("</h1></div><div class=\"i-card-logo\"><i class=\"fa " ++ icon card.sensor.quantity ++
     " i-card-logo-icon\"></i></div><div class=\"i-card-content\">" ++
     "<div class=\"sensor-value\"><h2>"),
   .text card.display, .markup "</h2><h3>", .text card.units,
   .markup "</h3></div></div></div></div>"]

/-- The JSON text of a chart; nothing at all without a chart. -/
def chartText : Option Chart → String
  | some chart => chart.toJson.render
  | none => ""

def panelBlock (panel : Panel) : Markup :=
  [.markup ("<div class=\"col-12 col-md-12 col-sm-12\"" ++
     (if panel.visible then "" else " style=\"display: none;\"") ++
     "><div class=\"i-card i-details-card p-3\"><canvas class=\"param-chart\" data-chart=\""),
   .text (chartText panel.chart), .markup "\"></canvas></div></div>"]

def slotBlock (board : Board) : Slot → Markup
  | .card key =>
    match board.card? key with
    | some card => cardBlock card
    | none => []
  | .detail =>
    match board.panel with
    | some panel => panelBlock panel
    | none => []

/-- The blocks of the grid, each on a line of its own. -/
def grid (board : Board) : Markup :=
  board.grid.slots.flatMap fun slot => slotBlock board slot ++ [.markup "\n"]

end SensorBoard.Page
