import SensorBoard.Proofs.Board.Step
import SensorBoard.Proofs.Survey.Success

/-!
# Runs of a board

A run is a list of clicks and answers, one after the other, that starts with the board of a fresh
dashboard. What a step keeps, a run keeps: the board is consistent all the time (`run_consistent`),
and of every card there remains what the survey found (`blanks_run`).
-/

namespace SensorBoard.Board

/-- One thing that happens to a board. -/
inductive Action where
  | toggle (key : CardKey) (metrics : Metrics)
  | deliver (request : HistoryRequest) (answer : Except LookupError (List HistoryPoint))

/-- The board after one thing has happened to it. -/
def perform (b : Board) : Action → Board
  | .toggle key metrics => (b.toggle key metrics).2
  | .deliver request answer => (b.deliver request answer).2

/-- The board after things have happened to it one after the other. -/
def run (b : Board) (actions : List Action) : Board := actions.foldl perform b

@[simp] theorem run_nil (b : Board) : b.run [] = b := rfl

@[simp] theorem run_cons (b : Board) (action : Action) (rest : List Action) :
    b.run (action :: rest) = (b.perform action).run rest :=
  rfl

@[simp] theorem run_append (b : Board) (first rest : List Action) :
    b.run (first ++ rest) = (b.run first).run rest :=
  List.foldl_append

/-! ## What a run keeps -/

variable {b : Board}

theorem Consistent.perform (h : b.Consistent) (action : Action) :
    (b.perform action).Consistent := by
  cases action with
  | toggle key metrics => exact h.toggle key metrics
  | deliver request answer => exact h.deliver request answer

theorem Consistent.run (h : b.Consistent) (actions : List Action) : (b.run actions).Consistent := by
  induction actions generalizing b with
  | nil => exact h
  | cons action rest ih => exact ih (h.perform action)

theorem Consistent.blanks_perform (h : b.Consistent) (action : Action) :
    (b.perform action).blanks = b.blanks := by
  cases action with
  | toggle key metrics => exact (toggle_step h key metrics).blanks h
  | deliver request answer => exact (deliver_step h request answer).blanks h

theorem Consistent.blanks_run (h : b.Consistent) (actions : List Action) :
    (b.run actions).blanks = b.blanks := by
  induction actions generalizing b with
  | nil => rfl
  | cons action rest ih => rw [run_cons, ih (h.perform action), h.blanks_perform action]

/-! ## Where a run starts -/

variable {d : Dashboard}

theorem idle_ofDashboard (h : d.Fresh) : (ofDashboard d).Idle where
  grid := rfl
  panel := rfl
  closed := by
    intro c hc
    obtain ⟨device, sensor, rule, rfl⟩ := h.ofRecord c hc
    rfl

theorem consistent_ofDashboard (h : d.Fresh) : (ofDashboard d).Consistent where
  keys_nodup := h.keys_nodup
  lamps := by
    intro c hc _
    obtain ⟨device, sensor, rule, rfl⟩ := h.ofRecord c hc
    exact ⟨rfl, rfl⟩
  word := Nat.one_lt_two_pow (n := 64) (by decide)
  waiting := by
    intro c hc ticket hstate
    have hclosed := (idle_ofDashboard h).closed c hc
    rw [Card.isOpen_of_opening hstate] at hclosed
    contradiction
  layout := Or.inl (idle_ofDashboard h)

/-- Whatever has happened to the board of a fresh dashboard, it is consistent. -/
theorem run_consistent (h : d.Fresh) (actions : List Action) :
    ((ofDashboard d).run actions).Consistent :=
  (consistent_ofDashboard h).run actions

/-- The board is what came of a successful survey. -/
def Reachable (b : Board) : Prop :=
  ∃ (rules : RuleTable) (gateway : Gateway) (d : Dashboard) (actions : List Action),
    (Survey.run rules gateway).result = .ok d ∧ b = (ofDashboard d).run actions

theorem Reachable.consistent (h : b.Reachable) : b.Consistent := by
  obtain ⟨rules, gateway, d, actions, hsurvey, rfl⟩ := h
  exact run_consistent (Survey.fresh_of_run hsurvey) actions

end SensorBoard.Board
