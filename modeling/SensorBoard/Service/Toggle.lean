import SensorBoard.Service.Basic

/-!
# Toggles

A click that reaches the service is dealt with in steps, and other requests may be served between
them: the click is placed on the board; if the board wants a history, that is fetched and delivered;
last the board is read once more for the report. The report tells of the board at that moment.
-/

namespace SensorBoard

/-- A card state as members of a JSON object. -/
def CardState.members : CardState → List (String × Json)
  | closed => [("state", .text "closed")]
  | opening ticket => [("state", .text "opening"), ("ticket", .nat ticket)]
  | opened => [("state", .text "open")]

def CardKey.toJson (key : CardKey) : Json :=
  .object [("device", .text key.device), ("sensor", .text key.sensor)]

/-- What is reported of a click. -/
structure ToggleReport where
  state : Option CardState
  placement : Option Placement
  detailSlot : Option Nat
  chart : Option Chart
  bulbOn : Option Bool
  error : Option String

namespace ToggleReport

/-- Nothing to report. -/
def blank : ToggleReport := ⟨none, none, none, none, none, none⟩

/-- A member that is there only if it has a value. -/
def optional (name : String) : Option Json → List (String × Json)
  | some j => [(name, j)]
  | none => []

/-- A report as JSON: what there is nothing to tell of is left out. -/
def toJson (r : ToggleReport) : Json :=
  .object ((r.state.map CardState.members).getD [] ++
    optional "placement" (r.placement.map Placement.toJson) ++
    optional "detail_slot" (r.detailSlot.map Json.nat) ++
    optional "chart" (r.chart.map Chart.toJson) ++
    optional "bulb_on" (r.bulbOn.map Json.bool) ++ optional "error" (r.error.map Json.text))

end ToggleReport

/-- A click that was placed and not yet answered. -/
structure PlacedToggle where
  key : CardKey
  report : ToggleReport
  /-- The history that has to be fetched and delivered before the answer. -/
  request : Option HistoryRequest

namespace Service

/-- What comes of placing a click. -/
inductive Placing where
  /-- There is no board. -/
  | unavailable (banner : Option String)
  /-- The board has no such card. -/
  | unknown
  | placed (toggle : PlacedToggle)

/-- The placed click of an outcome; `none` for an unknown card. -/
def placedOf? (key : CardKey) : ToggleOutcome → Option PlacedToggle
  | .unknown => none
  | .switched on => some ⟨key, { ToggleReport.blank with bulbOn := some on }, none⟩
  | .closed => some ⟨key, .blank, none⟩
  | .opened placement slot =>
    some ⟨key, { ToggleReport.blank with placement := some placement, detailSlot := some slot },
      none⟩
  | .opening placement slot request =>
    some ⟨key, { ToggleReport.blank with placement := some placement, detailSlot := some slot },
      some request⟩

def place (key : CardKey) (metrics : Metrics) (s : Service) : Placing × Service :=
  match s.board with
  | none => (.unavailable s.banner, s)
  | some board =>
    let (outcome, board) := board.toggle key metrics
    let s := { s with board := some board }
    match placedOf? key outcome with
    | none => (.unknown, s)
    | some toggle => (.placed toggle, s)

/-- The report with the banner of a history that could not be fetched. -/
def noted (report : ToggleReport) : Delivery → ToggleReport
  | .failed fault => { report with error := some fault.banner }
  | .rendered _ => report
  | .stale => report

/-- Delivers the history that a placed click asked for. -/
def deliver (request : HistoryRequest) (answer : Except LookupError (List HistoryPoint))
    (toggle : PlacedToggle) (s : Service) : PlacedToggle × Service :=
  match s.board with
  | none => (toggle, s)
  | some board =>
    let (delivery, board) := board.deliver request answer
    ({ toggle with report := noted toggle.report delivery }, { s with board := some board })

/-- The report of a placed click, as the board is now: a click that placed the panel tells where the
panel is, and shows its chart if the panel still belongs to the card. -/
def report (toggle : PlacedToggle) (s : Service) : ToggleReport :=
  match s.board with
  | none => toggle.report
  | some board =>
    let report := { toggle.report with state := (board.card? toggle.key).map Card.state }
    if report.detailSlot.isSome then
      -- the panel may have moved, changed hands or gone since the click was placed
      { report with
        detailSlot := board.grid.detailSlot?
        chart := (board.panelOf? toggle.key).bind Panel.chart }
    else report

end Service

end SensorBoard
