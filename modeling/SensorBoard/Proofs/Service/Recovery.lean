import SensorBoard.Proofs.Json.Told
import SensorBoard.Proofs.Page.Marks
import SensorBoard.Proofs.Service.Answer

/-!
# Failure and recovery

What the service shows is decided by the surveys that have ended, and by the last of them alone but
for the time of the last success (`Records`). After a failure there is nothing but the banner: no
request finds a card, and neither clicks nor histories that come late bring anything back. After a
success there is no banner, and everything begins anew.
-/

namespace SensorBoard.Service

/-! ## The surveys of a run -/

/-- What a survey has given, and when it ended. -/
structure Surveyed where
  time : Nat
  result : Except Fault Dashboard

namespace Surveyed

def dashboard? (x : Surveyed) : Option Dashboard :=
  match x.result with
  | .ok dashboard => some dashboard
  | .error _ => none

/-- The banner of a survey that failed. -/
def banner? (x : Surveyed) : Option String :=
  match x.result with
  | .ok _ => none
  | .error fault => some fault.banner

/-- The time of a survey that succeeded. -/
def success? (x : Surveyed) : Option Nat := x.dashboard?.map fun _ => x.time

end Surveyed

/-- The survey that ends with a step. -/
def Step.surveyed? : Step → Option Surveyed
  | .receive _ => none
  | .deliver _ _ _ => none
  | .reload now rules gateway => some ⟨now, (Survey.run rules gateway).result⟩

/-- The surveys that end in a run, in their order. -/
def surveys (steps : List Step) : List Surveyed := steps.filterMap Step.surveyed?

/-- The time of the last success; zero if there was none. -/
def lastSuccess (past : List Surveyed) : Nat := (past.filterMap Surveyed.success?).getLastD 0

/-! ## What the service shows of them -/

/-- The devices and the banner are those of the last survey, and the time is that of the last
success. -/
structure Records (s : Service) (past : List Surveyed) : Prop where
  devices : s.board.map Board.devices =
    past.getLast?.bind fun x => x.dashboard?.map Dashboard.devices
  banner : s.banner = past.getLast?.bind Surveyed.banner?
  lastUpdate : s.lastUpdate = lastSuccess past

theorem records_start : start.Records [] := ⟨rfl, rfl, rfl⟩

variable {s : Service} {past : List Surveyed}

theorem Records.install (h : s.Records past) (now : Nat) (result : Except Fault Dashboard) :
    (s.install now result).Records (past ++ [⟨now, result⟩]) where
  devices := by
    rw [List.getLast?_concat]
    cases result <;> rfl
  banner := by
    rw [List.getLast?_concat]
    cases result <;> rfl
  lastUpdate := by
    rw [lastSuccess, List.filterMap_append]
    cases result with
    | ok dashboard => exact (List.getLastD_concat ..).symm
    | error fault =>
      -- a failure leaves the time of the last success
      rw [show [(⟨now, .error fault⟩ : Surveyed)].filterMap Surveyed.success? = [] from rfl,
        List.append_nil]
      exact h.lastUpdate

/-- Only a survey changes what is recorded of the surveys. -/
theorem Records.of_devices {s' : Service} (h : s.Records past)
    (hdevices : s'.board.map Board.devices = s.board.map Board.devices)
    (hbanner : s'.banner = s.banner) (hupdate : s'.lastUpdate = s.lastUpdate) :
    s'.Records past :=
  ⟨hdevices.trans h.devices, hbanner.trans h.banner, hupdate.trans h.lastUpdate⟩

theorem ReceiveStep.records {received : Received} {s' : Service}
    (step : ReceiveStep s received s') (hs : s.Consistent) (h : s.Records past) :
    s'.Records past := by
  cases step with
  | unchanged _ => exact h
  | missed hboard _ | placed hboard _ =>
    -- a click changes the board, but not its devices
    refine h.of_devices ?_ rfl rfl
    rw [hboard]
    exact congrArg some (Board.toggle_step (hs _ hboard) _ _).devices

theorem Records.deliver (h : s.Records past) (hs : s.Consistent) (request : HistoryRequest)
    (answer : Except LookupError (List HistoryPoint)) (toggle : PlacedToggle) :
    (s.deliver request answer toggle).2.Records past := by
  -- with or without a board to deliver to, the devices stay
  rw [deliver_snd]
  refine h.of_devices ?_ rfl rfl
  cases hboard : s.board with
  | none => rfl
  | some board => exact congrArg some (Board.deliver_step (hs board hboard) request answer).devices

theorem Records.perform (h : s.Records past) (hs : s.Consistent) (step : Step) :
    (s.perform step).Records (past ++ step.surveyed?.toList) := by
  cases step with
  | receive r =>
    rw [Step.surveyed?, Option.toList_none, List.append_nil]
    exact (receive_step r s).records hs h
  | deliver toggle request answer =>
    rw [Step.surveyed?, Option.toList_none, List.append_nil]
    exact h.deliver hs request answer toggle
  | reload now rules gateway =>
    rw [Service.perform, finishReload_snd]
    exact h.install now _

theorem Records.run (h : s.Records past) (hs : s.Consistent) (steps : List Step) :
    (s.run steps).Records (past ++ surveys steps) := by
  induction steps generalizing s past with
  | nil => rwa [surveys, List.filterMap_nil, List.append_nil]
  | cons step rest ih =>
    -- the surveys of the first step come before those of the rest
    have hrest := ih (h.perform hs step) (hs.perform step)
    have hsurveys : surveys (step :: rest) = step.surveyed?.toList ++ surveys rest := by
      cases step <;> rfl
    rwa [hsurveys, ← List.append_assoc]

theorem records_run_start (steps : List Step) : (start.run steps).Records (surveys steps) :=
  records_start.run consistent_start steps

/-- Once there was a survey, there is a board or a banner, and not both. -/
theorem Records.board_xor_banner (h : s.Records past) (hpast : past ≠ []) :
    s.board.isSome = !s.banner.isSome := by
  -- which of them there is, the last survey decides
  obtain ⟨x, hlast⟩ := Option.ne_none_iff_exists'.mp (mt List.getLast?_eq_none_iff.mp hpast)
  rw [← Option.isSome_map (f := Board.devices), h.devices, h.banner, hlast]
  obtain ⟨now, result⟩ := x
  cases result <;> rfl

/-! ## Answers -/

/-- The page and the devices are told to whoever reads them. -/
theorem receive_get {r : Request} (hmethod : r.method = .get) (s : Service) :
    (Route.ofTarget? r.target = some .page →
      (s.receive r).1 = .answered (.ofBody 200 s.pageBody)) ∧
    (Route.ofTarget? r.target = some .devices →
      (s.receive r).1 = .answered (.ofBody 200 s.devicesBody)) := by
  have hnot : r.method ≠ .options := by rw [hmethod]; decide
  constructor <;> intro hroute <;> rw [receive, if_neg hnot, hroute, hmethod] <;> rfl

/-- A click that is in order: method, route, path and body are those of a click. -/
def ClickInOrder (r : Request) : Prop :=
  r.method = .post ∧ ∃ device sensor clicked,
    Route.ofTarget? r.target = some (.toggle device sensor) ∧ click device sensor r = .ok clicked

/-- Without a board, a click is told the banner. -/
theorem receive_click_of_no_board {r : Request} (h : ClickInOrder r) (hboard : s.board = none) :
    (s.receive r).1 = .answered (.ofBody 503 (errorBody s.banner)) := by
  obtain ⟨hmethod, device, sensor, clicked, hroute, hclick⟩ := h
  have hnot : r.method ≠ .options := by rw [hmethod]; decide
  rw [receive, if_neg hnot, hroute]
  simp only [hmethod, if_true, receiveClick, hclick, place, hboard]

/-- Without a board, there is nothing for a request to change. -/
theorem ReceiveStep.eq_of_no_board {received : Received} {s' : Service}
    (step : ReceiveStep s received s') (hnone : s.board = none) : s' = s := by
  cases step with
  | unchanged _ => rfl
  | missed hboard _ | placed hboard _ => cases hnone.symm.trans hboard

theorem deliver_of_no_board (hboard : s.board = none) (request : HistoryRequest)
    (answer : Except LookupError (List HistoryPoint)) (toggle : PlacedToggle) :
    s.deliver request answer toggle = (toggle, s) := by
  rw [deliver, hboard]

/-- The banners are shown as they are. -/
theorem escape_banner (fault : Fault) : Page.Entity.escape fault.banner = fault.banner := by
  cases fault <;> exact Page.Entity.escape_ofList (by decide)

theorem banner_infix_document (fault : Fault) (board : Option Board) :
    fault.banner.toList <:+: (Page.document board (some fault.banner)).render.toList := by
  have hmem : Page.Piece.text fault.banner ∈ Page.document board (some fault.banner) := by
    simp [Page.document, Page.banner]
  have hpart := Page.render_infix_of_mem hmem
  rwa [Page.Piece.render, escape_banner] at hpart

/-! ## After a failure and after a success -/

/-- The service shows a banner and nothing else, and a request or a late history changes nothing. -/
structure Withholds (s : Service) (banner : String) (lastUpdate : Nat) : Prop where
  state : s = ⟨none, some banner, lastUpdate⟩
  devices : ∀ r : Request, r.method = .get → Route.ofTarget? r.target = some .devices →
    (s.receive r).1 = .answered (.ofBody 200 (.json (.object [("devices", .object []),
      ("open", .null), ("last_update", .number (.int lastUpdate)), ("error", .text banner)])))
  page : ∀ r : Request, r.method = .get → Route.ofTarget? r.target = some .page →
    ∃ page : Page.Markup, (s.receive r).1 = .answered (.ofBody 200 (.html page)) ∧
      banner.toList <:+: page.render.toList ∧
      ∀ card, ¬ (Page.cardBlock card).render.toList <:+: page.render.toList
  clicks : ∀ r, ClickInOrder r →
    (s.receive r).1 = .answered (.ofBody 503 (.json (.object [("error", .text banner)])))
  requests : ∀ r, (s.receive r).2 = s
  histories : ∀ request answer toggle, s.deliver request answer toggle = (toggle, s)

/-- The service shows what the survey has found, with every card closed. -/
structure BeginsAnew (s : Service) (now : Nat) (d : Dashboard) : Prop where
  state : s = ⟨some (.ofDashboard d), none, now⟩
  closed : ∀ board, s.board = some board → board.panel = none ∧ ∀ c ∈ board.cards, c.state = .closed
  devices : ∀ r : Request, r.method = .get → Route.ofTarget? r.target = some .devices →
    (s.receive r).1 = .answered (.ofBody 200 (.json (.object [("devices", d.devices.toJson),
      ("open", .null), ("last_update", .number (.int now)), ("error", .null)])))
  /-- What is told of the devices is their names and sensors. -/
  told : d.devices.toJson.TellsDevices d.devices

theorem withholds (fault : Fault) (lastUpdate : Nat) :
    Withholds ⟨none, some fault.banner, lastUpdate⟩ fault.banner lastUpdate where
  state := rfl
  devices := fun _ hmethod hroute => (receive_get hmethod _).2 hroute
  page := fun _ hmethod hroute => ⟨_, (receive_get hmethod _).1 hroute,
    banner_infix_document fault none, fun card => Page.not_infix_cardBlock card _⟩
  clicks := fun _ hr => receive_click_of_no_board hr rfl
  requests := fun r => (receive_step r _).eq_of_no_board rfl
  histories := fun request answer toggle => deliver_of_no_board rfl request answer toggle

theorem beginsAnew {d : Dashboard} (h : d.Fresh) (now : Nat) :
    BeginsAnew ⟨some (.ofDashboard d), none, now⟩ now d where
  state := rfl
  closed := by
    intro board hboard
    obtain rfl := Option.some.inj hboard
    have hidle := Board.idle_ofDashboard h
    exact ⟨hidle.panel, fun c hc => Card.isOpen_eq_false_iff.mp (hidle.closed c hc)⟩
  devices := by
    intro r hmethod hroute
    rw [(receive_get hmethod _).2 hroute, devicesBody, openKey?]
    simp only [Option.bind_some, (Board.idle_ofDashboard h).openCard?]
    rfl
  told := Json.tellsDevices_toJson d.devices

/-! ## The main statement -/

/-- In any run, with clicks and late histories mixed in as they come: once there was a survey there
is a board or a banner, and not both. As long as the last survey is one that failed, its banner is
all that is shown, with the time of the last success, and nothing else than a survey changes that. As
long as it is one that succeeded there is no banner and the devices are those it found; and a success
begins anew, whatever was there before. -/
theorem shows_last_survey (steps : List Step) :
    let s := start.run steps
    (surveys steps ≠ [] → s.board.isSome = !s.banner.isSome) ∧
    (∀ now fault, (surveys steps).getLast? = some ⟨now, .error fault⟩ →
      s.Withholds fault.banner (lastSuccess (surveys steps))) ∧
    (∀ now d, (surveys steps).getLast? = some ⟨now, .ok d⟩ →
      s.banner = none ∧ s.devices = d.devices) ∧
    ∀ now rules gateway d, (Survey.run rules gateway).result = .ok d →
      (s.perform (.reload now rules gateway)).BeginsAnew now d := by
  intro s
  have hrecords : s.Records (surveys steps) := records_run_start steps
  refine ⟨hrecords.board_xor_banner, fun now fault hlast => ?_, fun now d hlast => ?_,
    fun now rules gateway d hsurvey => ?_⟩
  · -- without devices there is no board, and that leaves the banner alone
    have hboard : s.board = none := by
      have hdevices := hrecords.devices
      rw [hlast] at hdevices
      exact Option.map_eq_none_iff.mp hdevices
    have hbanner : s.banner = some fault.banner := by rw [hrecords.banner, hlast]; rfl
    have hstate : s = ⟨none, some fault.banner, lastSuccess (surveys steps)⟩ := by
      rw [← hboard, ← hbanner, ← hrecords.lastUpdate]
    rw [hstate]
    exact withholds fault _
  · have hdevices := hrecords.devices
    rw [hlast] at hdevices
    obtain ⟨board, hboard, heq⟩ := Option.map_eq_some_iff.mp hdevices
    refine ⟨by rw [hrecords.banner, hlast]; rfl, ?_⟩
    rw [Service.devices, hboard]
    exact heq
  · -- the new state does not depend on the old one
    rw [Service.perform, finishReload_snd, hsurvey]
    exact beginsAnew (Survey.fresh_of_run hsurvey) now

/-- The porch when nobody can tell its devices. -/
def porchLost : Gateway := { Survey.porch with devices := .error (.undecodable "") }

theorem clickInOrder_porchClick : ClickInOrder (porchClick ".3303.0") :=
  ⟨rfl, _, _, _, ofTarget?_porchClick, click_porchClick⟩

/-- The thermometer is clicked, the next survey fails, and then the history comes. A click in order
is told the banner, and the survey after that begins anew. -/
theorem shows_last_survey_porch :
    let steps := [.reload 1 .builtin Survey.porch, .receive (porchClick ".3303.0"),
      .reload 2 .builtin porchLost,
      .deliver ⟨porchRequest.key, .blank, some porchRequest⟩ porchRequest (.ok [])]
    let s := start.run steps
    s.Withholds "Error when loading device list!" 1 ∧
      (s.receive (porchClick ".3303.0")).1 = .answered (.ofBody 503
        (.json (.object [("error", .text "Error when loading device list!")]))) ∧
      (s.perform (.reload 3 .builtin Survey.porch)).BeginsAnew 3 Survey.porchDashboard := by
  intro steps s
  obtain ⟨_, hfailed, _, hanew⟩ := shows_last_survey steps
  have hwithholds := hfailed 2 (.deviceList (.undecodable "")) rfl
  exact ⟨hwithholds, hwithholds.clicks _ clickInOrder_porchClick, hanew 3 _ _ _ Survey.run_porch⟩

end SensorBoard.Service
