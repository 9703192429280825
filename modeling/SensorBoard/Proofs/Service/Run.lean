import SensorBoard.Proofs.Board.Run
import SensorBoard.Service.Handler

/-!
# Runs of the service

Requests are served in steps, and between two steps of one request there may be steps of others. A
run is a list of steps in the order in which they are taken. Receiving a request does nothing to the
service or is a click on its board (`receive_step`), so the board is consistent at any time of a run
(`consistent_run_start`).
-/

namespace SensorBoard.Service

/-- A step of a request; those that only read are left out. -/
inductive Step where
  | receive (request : Request)
  /-- The history comes that a click has asked for. -/
  | deliver (toggle : PlacedToggle) (request : HistoryRequest)
      (answer : Except LookupError (List HistoryPoint))
  /-- The survey of a reload ends, or the first survey. -/
  | reload (now : Nat) (rules : RuleTable) (gateway : Gateway)

def perform (s : Service) : Step → Service
  | .receive request => (s.receive request).2
  | .deliver toggle request answer => (s.deliver request answer toggle).2
  | .reload now rules gateway => (s.finishReload now (Survey.run rules gateway).result).2

def run (s : Service) (steps : List Step) : Service := steps.foldl perform s

@[simp] theorem run_nil (s : Service) : s.run [] = s := rfl

@[simp] theorem run_cons (s : Service) (step : Step) (rest : List Step) :
    s.run (step :: rest) = (s.perform step).run rest :=
  rfl

/-! ## What receiving a request does -/

/-- The click that was placed, if the request was one. -/
def Received.toggle? : Received → Option PlacedToggle
  | .placed toggle => some toggle
  | _ => none

theorem Received.toggle?_eq_some_iff {received : Received} {toggle : PlacedToggle} :
    received.toggle? = some toggle ↔ received = .placed toggle := by
  cases received <;> simp [toggle?]

theorem answerRead_eq (method : Method) (body : Body) :
    ∃ response, answerRead method body = .answered response := by
  cases method <;> exact ⟨_, rfl⟩

/-- A request is answered at once, or it is a click, or it is a reload. -/
theorem receive_eq (r : Request) (s : Service) :
    (∃ response, s.receive r = (.answered response, s)) ∨
      (r.method = .post ∧ ∃ device sensor, s.receive r = s.receiveClick device sensor r) ∨
      (r.method = .post ∧ Route.ofTarget? r.target = some .reload ∧
        s.receive r = (.surveying, s)) := by
  rw [receive]
  split
  · exact Or.inl ⟨_, rfl⟩
  · split
    · exact Or.inl ⟨_, rfl⟩
    · obtain ⟨response, hresponse⟩ := answerRead_eq r.method s.pageBody
      exact Or.inl ⟨response, by rw [hresponse]⟩
    · obtain ⟨response, hresponse⟩ := answerRead_eq r.method s.devicesBody
      exact Or.inl ⟨response, by rw [hresponse]⟩
    · split
      · next hpost => exact Or.inr (Or.inl ⟨hpost, _, _, rfl⟩)
      · exact Or.inl ⟨_, rfl⟩
    · next hroute =>
      split
      · next hpost => exact Or.inr (Or.inr ⟨hpost, hroute, rfl⟩)
      · exact Or.inl ⟨_, rfl⟩

/-- The things that can come of receiving a request. -/
inductive ReceiveStep (s : Service) : Received → Service → Prop where
  | unchanged {received : Received} (hnot : ∀ toggle, received ≠ .placed toggle) :
      ReceiveStep s received s
  -- a click on a card that the board does not have
  | missed {board : Board} {key : CardKey} {metrics : Metrics} (hboard : s.board = some board)
      (hmissed : placedOf? key (board.toggle key metrics).1 = none) :
      ReceiveStep s (.answered (.ofStatus 404))
        { s with board := some (board.toggle key metrics).2 }
  | placed {board : Board} {key : CardKey} {metrics : Metrics} {toggle : PlacedToggle}
      (hboard : s.board = some board)
      (hplaced : placedOf? key (board.toggle key metrics).1 = some toggle) :
      ReceiveStep s (.placed toggle) { s with board := some (board.toggle key metrics).2 }

theorem receiveClick_step (device sensor : String) (r : Request) (s : Service) :
    ReceiveStep s (s.receiveClick device sensor r).1 (s.receiveClick device sensor r).2 := by
  rw [receiveClick]
  cases click device sensor r with
  | error refusal => exact .unchanged (by simp)
  | ok clicked =>
    obtain ⟨key, metrics⟩ := clicked
    simp only [place]
    cases hboard : s.board with
    | none => exact .unchanged (by simp)
    | some board =>
      cases hplaced : placedOf? key (board.toggle key metrics).1 with
      | none =>
        simp only [hplaced]
        exact .missed hboard hplaced
      | some toggle =>
        simp only [hplaced]
        exact .placed hboard hplaced

theorem receive_step (r : Request) (s : Service) :
    ReceiveStep s (s.receive r).1 (s.receive r).2 := by
  rcases receive_eq r s with ⟨response, heq⟩ | ⟨_, device, sensor, heq⟩ | ⟨_, _, heq⟩
  · rw [heq]
    exact .unchanged (by simp)
  · rw [heq]
    exact receiveClick_step device sensor r s
  · -- a reload changes nothing before its survey ends
    rw [heq]
    exact .unchanged (by simp)

/-! ## The board of the service -/

/-- The board is consistent, if there is one. -/
def Consistent (s : Service) : Prop := ∀ board, s.board = some board → board.Consistent

variable {s : Service}

theorem consistent_of_board_eq {board : Board} (hboard : s.board = some board)
    (h : board.Consistent) : s.Consistent := by
  intro b hb
  exact Option.some.inj (hboard.symm.trans hb) ▸ h

theorem ReceiveStep.consistent {received : Received} {s' : Service}
    (step : ReceiveStep s received s') (h : s.Consistent) : s'.Consistent := by
  cases step with
  | unchanged _ => exact h
  | missed hboard _ => exact consistent_of_board_eq rfl ((h _ hboard).toggle _ _)
  | placed hboard _ => exact consistent_of_board_eq rfl ((h _ hboard).toggle _ _)

theorem Consistent.receive (h : s.Consistent) (r : Request) : (s.receive r).2.Consistent :=
  (receive_step r s).consistent h

/-- A delivery reaches the board, if there is one, and nothing else. -/
theorem deliver_snd (request : HistoryRequest) (answer : Except LookupError (List HistoryPoint))
    (toggle : PlacedToggle) (s : Service) :
    (s.deliver request answer toggle).2 =
      { s with board := s.board.map fun b => (b.deliver request answer).2 } := by
  obtain ⟨board, banner, lastUpdate⟩ := s
  cases board <;> rfl

theorem Consistent.deliver (h : s.Consistent) (request : HistoryRequest)
    (answer : Except LookupError (List HistoryPoint)) (toggle : PlacedToggle) :
    (s.deliver request answer toggle).2.Consistent := by
  rw [deliver_snd]
  intro board' hboard'
  obtain ⟨board, hboard, rfl⟩ := Option.map_eq_some_iff.mp hboard'
  exact (h board hboard).deliver request answer

theorem finishReload_snd (now : Nat) (result : Except Fault Dashboard) (s : Service) :
    (s.finishReload now result).2 = s.install now result := by
  cases result <;> rfl

theorem consistent_install (now : Nat) (rules : RuleTable) (gateway : Gateway) :
    (s.install now (Survey.run rules gateway).result).Consistent := by
  cases hresult : (Survey.run rules gateway).result with
  | error fault =>
    intro board hboard
    cases hboard
  | ok dashboard =>
    have hfresh := Survey.fresh_of_run hresult
    exact consistent_of_board_eq rfl (Board.consistent_ofDashboard hfresh)

theorem Consistent.perform (h : s.Consistent) (step : Step) : (s.perform step).Consistent := by
  cases step with
  | receive r => exact h.receive r
  | deliver toggle request answer => exact h.deliver request answer toggle
  | reload now rules gateway =>
    rw [Service.perform, finishReload_snd]
    exact consistent_install now rules gateway

theorem Consistent.run (h : s.Consistent) (steps : List Step) : (s.run steps).Consistent := by
  induction steps generalizing s with
  | nil => exact h
  | cons step rest ih => exact ih (h.perform step)

theorem consistent_start : start.Consistent := by
  intro board hboard
  cases hboard

/-- Whatever requests come, and however their steps mix, the board is consistent. -/
theorem consistent_run_start (steps : List Step) : (start.run steps).Consistent :=
  consistent_start.run steps

end SensorBoard.Service
