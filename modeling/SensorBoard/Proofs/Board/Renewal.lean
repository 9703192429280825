import Mathlib.Data.List.Induction
import SensorBoard.Proofs.Board.Stale

/-!
# Renewed boards

A reload puts the board of a new survey in the place of the old one, while answers to requests of
the old one may still be on their way. Such an answer should be dropped. But every board counts its
tickets from one, and an answer is told by its card and its ticket alone, so the new board takes it
for its own whenever it awaits a request that is alike: the opening of that card has to have been
the same in number on both boards (`guarded_iff_none_alike`).
-/

namespace SensorBoard

namespace Board

variable {b : Board}

/-! ## What is still awaited -/

/-- The request was handed out along the run, and nothing has ended the wait for it since. -/
def Outstanding (b : Board) (actions : List Action) (request : HistoryRequest) : Prop :=
  ∃ pre key metrics post, actions = pre ++ .toggle key metrics :: post ∧
    ((b.run pre).toggle key metrics).1.request? = some request ∧
    ∀ action ∈ post, ¬ b.Disturbs request action

theorem Outstanding.snoc {actions : List Action} {request : HistoryRequest}
    (hout : b.Outstanding actions request) {action : Action}
    (haction : ¬ b.Disturbs request action) : b.Outstanding (actions ++ [action]) request := by
  obtain ⟨pre, key, metrics, post, rfl, hr, hnone⟩ := hout
  refine ⟨pre, key, metrics, post ++ [action], by simp, hr, fun other hother => ?_⟩
  rcases List.mem_append.mp hother with hother | hother
  · exact hnone other hother
  · rwa [List.mem_singleton.mp hother]

theorem outstanding_snoc_toggle {actions : List Action} {key : CardKey} {metrics : Metrics}
    {request : HistoryRequest}
    (hr : ((b.run actions).toggle key metrics).1.request? = some request) :
    b.Outstanding (actions ++ [.toggle key metrics]) request :=
  ⟨actions, key, metrics, [], rfl, hr, by simp⟩

/-- A request that is awaited in the end was handed out, and has been awaited ever since. -/
theorem outstanding_of_awaited (h : b.Consistent) (hidle : b.awaited? = none)
    {actions : List Action} {request : HistoryRequest}
    (hr : (b.run actions).awaited? = some request) : b.Outstanding actions request := by
  -- from the last action backwards: it has handed the request out, or left it awaited
  induction actions using List.reverseRecOn with
  | nil => cases hidle.symm.trans hr
  | append_singleton actions action ih =>
    have hrun := h.run actions
    rw [run_append] at hr
    cases action with
    | toggle key metrics =>
      have step := toggle_step hrun key metrics
      by_cases hopen : (b.run actions).CanOpen key
      · -- such a click ends every wait, so what is awaited now is its own
        apply outstanding_snoc_toggle
        rw [← step.awaited?_of_canOpen hrun hopen]
        exact hr
      · have hbefore := (step.frame_of_not_canOpen hrun hopen).1.symm.trans hr
        exact (ih hbefore).snoc fun hdisturbs => hopen ((h.canOpen_run actions).mpr hdisturbs)
    | deliver other answer =>
      have step := deliver_step hrun other answer
      -- after an answer that is taken nothing would be awaited
      have hstale : ((b.run actions).deliver other answer).1 = .stale := by
        by_contra htaken
        cases (step.awaited?_of_taken hrun htaken).symm.trans hr
      have hbefore : (b.run actions).awaited? = some request := by
        rw [← step.eq_of_stale hstale]
        exact hr
      apply (ih hbefore).snoc
      rintro ⟨hkey, hticket⟩
      exact (deliver_stale_iff hrun).mp hstale request hbefore ⟨hkey.symm, hticket.symm⟩

/-- What was handed out and not disturbed since is awaited, and it was the last opening. -/
theorem Outstanding.awaited (h : b.Consistent) {actions : List Action} {request : HistoryRequest}
    (hout : b.Outstanding actions request) :
    (b.run actions).awaited? = some request ∧
      (b.run actions).nextTicket = ticketAfter request.ticket := by
  obtain ⟨pre, key, metrics, post, rfl, hr, hnone⟩ := hout
  have hpre := h.run pre
  have step := toggle_step hpre key metrics
  -- right after the click the request is awaited, and its ticket is the one just spent
  obtain ⟨hticket, hopening, hopen⟩ := step.request hr
  have hopened := (step.awaited?_of_canOpen hpre hopen).trans hr
  have hnext := step.nextTicket
  rw [hopening, if_pos rfl, ← hticket] at hnext
  have hundisturbed : ∀ action ∈ post,
      ¬ ((b.run pre).toggle key metrics).2.Disturbs request action := by
    intro action hmem hdisturbs
    apply hnone action hmem
    rw [← h.disturbs_run (pre ++ [.toggle key metrics]), run_append]
    exact hdisturbs
  obtain ⟨hawaited, hspent⟩ :=
    awaited_run_of_undisturbed (hpre.toggle key metrics) hopened hundisturbed
  rw [run_append, run_cons, perform]
  exact ⟨hawaited, hspent.trans hnext⟩

/-- A run awaits a request exactly if it has handed it out and not disturbed it since. -/
theorem awaited_run_iff (h : b.Consistent) (hidle : b.awaited? = none) {actions : List Action}
    {request : HistoryRequest} :
    (b.run actions).awaited? = some request ↔ b.Outstanding actions request :=
  ⟨outstanding_of_awaited h hidle, fun hout => (hout.awaited h).1⟩

theorem Outstanding.mem_requests {actions : List Action} {request : HistoryRequest}
    (hout : b.Outstanding actions request) : request ∈ b.requests actions := by
  obtain ⟨pre, key, metrics, post, rfl, hr, _⟩ := hout
  rw [requests_append, requests, handsOut?, hr]
  simp

end Board

/-! ## Sessions -/

/-- A board in use: the dashboard it was made for, what has happened to it since, and the requests
that boards before it have handed out. -/
structure Session where
  dashboard : Dashboard
  actions : List Board.Action
  former : List HistoryRequest

namespace Session

/-- The board when it was put in place. -/
def start (s : Session) : Board := .ofDashboard s.dashboard

/-- The board as it is now. -/
def board (s : Session) : Board := s.start.run s.actions

/-- The requests that the board has handed out itself. -/
def own (s : Session) : List HistoryRequest := s.start.requests s.actions

/-- The requests to which answers may come. -/
def issued (s : Session) : List HistoryRequest := s.former ++ s.own

/-- The session after one more thing has happened to the board. -/
def act (s : Session) (action : Board.Action) : Session :=
  { s with actions := s.actions ++ [action] }

/-- The session after a reload: the board of the new survey knows nothing of the old one. -/
def renew (s : Session) (d : Dashboard) : Session := ⟨d, [], s.issued⟩

/-- The sessions that clicks, answers to requests and successful reloads lead to. -/
inductive Reachable : Session → Prop where
  | start {rules : RuleTable} {gateway : Gateway} {d : Dashboard}
      (hsurvey : (Survey.run rules gateway).result = .ok d) : Reachable ⟨d, [], []⟩
  | toggle {s : Session} (key : CardKey) (metrics : Metrics) :
      Reachable s → Reachable (s.act (.toggle key metrics))
  | deliver {s : Session} {request : HistoryRequest}
      (answer : Except LookupError (List HistoryPoint)) :
      Reachable s → request ∈ s.issued → Reachable (s.act (.deliver request answer))
  | renew {s : Session} {rules : RuleTable} {gateway : Gateway} {d : Dashboard} :
      Reachable s → (Survey.run rules gateway).result = .ok d → Reachable (s.renew d)

/-- The board has handed out the request itself, and the card still waits in that opening. -/
def Outstanding (s : Session) (request : HistoryRequest) : Prop :=
  s.start.Outstanding s.actions request

/-- What answers should do: one is taken only in the opening that has asked for it, and one that was
asked for before the reload leaves the board alone and does not take the place of another. -/
structure Guarded (s : Session) : Prop where
  own : ∀ r ∈ s.own, ∀ answer, (s.board.deliver r answer).1 ≠ .stale → s.Outstanding r
  former : ∀ r ∈ s.former, ∀ answer, s.board.deliver r answer = (.stale, s.board)
  fresh : ∀ r ∈ s.former, ∀ p, s.Outstanding p → ∀ late answer,
    ((s.board.deliver r late).2.deliver p answer).1 ≠ .stale

@[simp] theorem board_act (s : Session) (action : Board.Action) :
    (s.act action).board = s.board.perform action :=
  Board.run_append ..

@[simp] theorem board_renew (s : Session) (d : Dashboard) : (s.renew d).board = .ofDashboard d := rfl

variable {s : Session}

theorem Reachable.fresh (h : s.Reachable) : s.dashboard.Fresh := by
  induction h with
  | start hsurvey => exact Survey.fresh_of_run hsurvey
  | toggle _ _ _ ih => exact ih
  | deliver _ _ _ ih => exact ih
  | renew _ hsurvey _ => exact Survey.fresh_of_run hsurvey

theorem Reachable.consistent (h : s.Reachable) : s.board.Consistent :=
  Board.run_consistent h.fresh s.actions

/-- What a board awaits is what it has handed out itself, however many boards there were. -/
theorem Reachable.awaited_iff (h : s.Reachable) {request : HistoryRequest} :
    s.board.awaited? = some request ↔ s.Outstanding request :=
  Board.awaited_run_iff (Board.consistent_ofDashboard h.fresh)
    (Board.idle_ofDashboard h.fresh).awaited?

/-- Whoever has handed out the request, an answer to it is taken if one that is alike is awaited. -/
theorem Reachable.taken_iff (h : s.Reachable) {request : HistoryRequest}
    (answer : Except LookupError (List HistoryPoint)) :
    (s.board.deliver request answer).1 ≠ .stale ↔ ∃ p, s.Outstanding p ∧ Board.Alike p request := by
  rw [ne_eq, Board.deliver_stale_iff h.consistent]
  simp only [h.awaited_iff, not_forall, not_not, exists_prop]

/-- Among its own requests a board never takes one for another. -/
theorem Reachable.taken_own_iff (h : s.Reachable) {request : HistoryRequest}
    (hown : request ∈ s.own) (answer : Except LookupError (List HistoryPoint)) :
    (s.board.deliver request answer).1 ≠ .stale ↔ s.Outstanding request := by
  rw [h.taken_iff answer]
  constructor
  · rintro ⟨p, hout, halike⟩
    have hp : p ∈ s.own := hout.mem_requests
    have hstart := Board.consistent_ofDashboard h.fresh
    -- both are requests of one run, where those that are alike are the same
    obtain rfl := hstart.eq_of_alike hp hown halike
    exact hout
  · intro hout
    exact ⟨request, hout, rfl, rfl⟩

/-- An answer that is not taken changes nothing. -/
theorem Reachable.deliver_eq (h : s.Reachable) {request : HistoryRequest}
    {answer : Except LookupError (List HistoryPoint)}
    (hstale : (s.board.deliver request answer).1 = .stale) :
    s.board.deliver request answer = (.stale, s.board) :=
  Prod.ext hstale ((Board.deliver_step h.consistent request answer).eq_of_stale hstale)

/-- Once an answer is taken, the board takes no other, not even the one it has asked for. -/
theorem Reachable.stale_of_taken (h : s.Reachable) {request other : HistoryRequest}
    {late answer : Except LookupError (List HistoryPoint)}
    (htaken : (s.board.deliver request late).1 ≠ .stale) :
    ((s.board.deliver request late).2.deliver other answer).1 = .stale := by
  have hafter := h.consistent.deliver request late
  have step := Board.deliver_step h.consistent request late
  rw [Board.deliver_stale_iff hafter, step.awaited?_of_taken h.consistent htaken]
  intro p hp
  cases hp

/-! ## The porch, reloaded -/

/-- The request for the history of the thermometer as the first opening of a board. -/
def thermometerRequest : HistoryRequest := ⟨⟨"porch", ".3303.0"⟩, ".3303.0.5700", 1⟩

/-- The thermometer is opened, the porch is surveyed again, and the thermometer is opened anew. -/
def reopened : Session where
  dashboard := Survey.porchDashboard
  actions := [.toggle ⟨"porch", ".3303.0"⟩ ⟨1200.0, 300.0⟩]
  former := [thermometerRequest]

theorem reachable_reopened : reopened.Reachable := by
  have hstart := Reachable.start Survey.run_porch
  have hopened := hstart.toggle ⟨"porch", ".3303.0"⟩ ⟨1200.0, 300.0⟩
  exact (hopened.renew Survey.run_porch).toggle ⟨"porch", ".3303.0"⟩ ⟨1200.0, 300.0⟩

theorem outstanding_reopened : reopened.Outstanding thermometerRequest := by
  show reopened.start.Outstanding ([] ++ reopened.actions) thermometerRequest
  exact Board.outstanding_snoc_toggle rfl

/-! ## The main statement -/

/-- A session is guarded exactly if no request of a former board is alike to one that the board
awaits. Where one is, an answer to it is taken, and that to the request of the board is stale then.
What a board awaits is its own last opening, so the former request was an opening of the same number
on its board, counted in words. For the requests of the board itself nothing else is needed. -/
theorem guarded_iff_none_alike (h : s.Reachable) :
    (s.Guarded ↔ ∀ r ∈ s.former, ∀ p, s.Outstanding p → ¬ Board.Alike p r) ∧
    (∀ r ∈ s.own, ∀ answer, (s.board.deliver r answer).1 ≠ .stale ↔ s.Outstanding r) ∧
    (∀ r ∈ s.former, ∀ p, s.Outstanding p → Board.Alike p r → ∀ late answer,
      (s.board.deliver r late).1 ≠ .stale ∧
        ((s.board.deliver r late).2.deliver p answer).1 = .stale) ∧
    (∀ p, s.Outstanding p → p ∈ s.own ∧ p.ticket = s.start.openings s.actions % 2 ^ 64) := by
  refine ⟨⟨fun hguarded r hr p hout halike => ?_, fun hnone => ?_⟩, ?_, ?_, ?_⟩
  · have htaken := (h.taken_iff (.ok [])).mpr ⟨p, hout, halike⟩
    exact htaken (congrArg Prod.fst (hguarded.former r hr (.ok [])))
  · have hstale : ∀ r ∈ s.former, ∀ answer, s.board.deliver r answer = (.stale, s.board) := by
      intro r hr answer
      apply h.deliver_eq
      by_contra htaken
      obtain ⟨p, hout, halike⟩ := (h.taken_iff answer).mp htaken
      exact hnone r hr p hout halike
    constructor
    · intro r hr answer htaken
      exact (h.taken_own_iff hr answer).mp htaken
    · exact hstale
    · intro r hr p hout late answer
      rw [hstale r hr late]
      exact (h.taken_iff answer).mpr ⟨p, hout, rfl, rfl⟩
  · intro r hr answer
    exact h.taken_own_iff hr answer
  · intro r _ p hout halike late answer
    have htaken := (h.taken_iff late).mpr ⟨p, hout, halike⟩
    exact ⟨htaken, h.stale_of_taken htaken⟩
  · -- the ticket is the last that was spent, and each opening has spent one
    intro p hout
    have hstart := Board.consistent_ofDashboard h.fresh
    obtain ⟨hword, hlast⟩ := h.consistent.ticketAfter_awaited (h.awaited_iff.mpr hout)
    have hcount : s.board.nextTicket = (1 + s.start.openings s.actions) % Decimal.wordSize :=
      hstart.nextTicket_run s.actions
    refine ⟨hout.mem_requests, ?_⟩
    rw [Board.ticketAfter] at hlast
    unfold Decimal.wordSize at *
    omega

/-- The late answer is rendered in the new opening, and the answer that was asked for is dropped. -/
theorem late_answer_taken_reopened :
    reopened.Reachable ∧ thermometerRequest ∈ reopened.former ∧ ∀ late answer,
      (reopened.board.deliver thermometerRequest late).1 ≠ .stale ∧
        ((reopened.board.deliver thermometerRequest late).2.deliver thermometerRequest answer).1 =
          .stale := by
  have hformer : thermometerRequest ∈ reopened.former := List.mem_singleton.mpr rfl
  refine ⟨reachable_reopened, hformer, ?_⟩
  exact (guarded_iff_none_alike reachable_reopened).2.2.1 _ hformer _ outstanding_reopened
    ⟨rfl, rfl⟩

theorem not_forall_guarded : ¬ ∀ s : Session, s.Reachable → s.Guarded := by
  intro hall
  have hguarded := hall reopened reachable_reopened
  have hdropped := hguarded.former thermometerRequest (List.mem_singleton.mpr rfl) (.ok [])
  have htaken := (reachable_reopened.taken_iff (.ok [])).mpr ⟨_, outstanding_reopened, rfl, rfl⟩
  exact htaken (congrArg Prod.fst hdropped)

end Session

end SensorBoard
