import SensorBoard.Page.Document
import SensorBoard.Service.Message
import SensorBoard.Service.Route
import SensorBoard.Service.Toggle

/-!
# The handler

Requests to the service. Most are answered at once. A reload needs a survey first, and a click is
placed and answered in steps. `handle` serves a request with nothing else happening between its
steps.
-/

namespace SensorBoard

namespace Service

/-- What comes of receiving a request. -/
inductive Received where
  | answered (response : Response)
  /-- A survey is wanted; its result answers the request. -/
  | surveying
  | placed (toggle : PlacedToggle)

def pageBody (s : Service) : Body := .html (Page.document s.board s.banner)

def devicesBody (s : Service) : Body :=
  .json (.object [("devices", DeviceMap.toJson s.devices),
    ("open", (s.openKey?.map CardKey.toJson).getD .null),
    ("last_update", .nat s.lastUpdate), ("error", .optionalText s.banner)])

/-- A body that tells nothing but an error. -/
def errorBody (error : Option String) : Body :=
  .json { ToggleReport.blank with error := error }.toJson

/-- The key that the encoded names of a route stand for. -/
def keyOf? (device sensor : String) : Option CardKey := do
  return ⟨← Text.Percent.decode? device, ← Text.Percent.decode? sensor⟩

/-- The card and the widths of a click. -/
def click (device sensor : String) (r : Request) : Except Refusal (CardKey × Metrics) :=
  match keyOf? device sensor with
  | none => .error .badPath
  | some key => r.metrics.map fun metrics => (key, metrics)

def receiveClick (device sensor : String) (r : Request) (s : Service) : Received × Service :=
  match click device sensor r with
  | .error refusal => (.answered refusal.response, s)
  | .ok (key, metrics) =>
    -- only a request that is in order reaches the board
    match s.place key metrics with
    | (.unavailable banner, s) => (.answered (.ofBody 503 (errorBody banner)), s)
    | (.unknown, s) => (.answered (.ofStatus 404), s)
    | (.placed toggle, s) => (.placed toggle, s)

/-- Answers a request that only reads; a request for the head gets no more than that. -/
def answerRead (method : Method) (body : Body) : Received :=
  match method with
  | .get => .answered (.ofBody 200 body)
  | .head => .answered ⟨200, body, true⟩
  | _ => .answered (.ofStatus 405)

/-- Receives a request. Whether a page from elsewhere may use the service is asked by the method
`OPTIONS`, and it may, wherever it asks. -/
def receive (r : Request) (s : Service) : Received × Service :=
  if r.method = .options then (.answered (.ofStatus 200), s)
  else
    match Route.ofTarget? r.target with
    | none => (.answered (.ofStatus 404), s)
    | some .page => (answerRead r.method s.pageBody, s)
    | some .devices => (answerRead r.method s.devicesBody, s)
    | some (.toggle device sensor) =>
      if r.method = .post then s.receiveClick device sensor r else (.answered (.ofStatus 405), s)
    | some .reload => if r.method = .post then (.surveying, s) else (.answered (.ofStatus 405), s)

/-- The response to a click, as the board is now. -/
def answerToggle (toggle : PlacedToggle) (s : Service) : Response :=
  .ofBody 200 (.json (s.report toggle).toJson)

/-- Takes over the survey of a reload, and answers it. -/
def finishReload (now : Nat) (result : Except Fault Dashboard) (s : Service) : Response × Service :=
  let s := s.install now result
  match result with
  | .ok _ => (.ofStatus 204, s)
  | .error _ => (.ofBody 502 (.json (.object [("error", .optionalText s.banner)])), s)

/-- Serves a request in one go; the lookups made for it are listed. -/
def handle (rules : RuleTable) (gateway : Gateway) (now : Nat) (r : Request) (s : Service) :
    Response × List Lookup × Service :=
  match s.receive r with
  | (.answered response, s) => (response, [], s)
  | (.surveying, s) =>
    let survey := Survey.run rules gateway
    let (response, s) := s.finishReload now survey.result
    (response, survey.lookups, s)
  | (.placed toggle, s) =>
    match toggle.request with
    | none => (s.answerToggle toggle, [], s)
    | some request =>
      let answer := gateway.history request.key.device request.resource
      let (toggle, s) := s.deliver request answer toggle
      (s.answerToggle toggle, [.history request.key.device request.resource], s)

end Service

end SensorBoard
