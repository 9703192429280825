import SensorBoard.Proofs.Board.Request

/-!
# Stale answers

Along a run of one board with fewer openings than there are words, the requests it hands out have
growing tickets. If only answers to such requests come, then an answer is dropped exactly when,
since its request was handed out, some card was clicked that can be open, or the request was
answered already (`stale_iff_given_up`).
-/

namespace SensorBoard.Board

variable {b : Board}

/-! ## The requests of a run -/

/-- What an action makes the board hand out. -/
def handsOut? (b : Board) : Action → Option HistoryRequest
  | .toggle key metrics => (b.toggle key metrics).1.request?
  | .deliver _ _ => none

/-- The requests handed out along a run, in their order. -/
def requests (b : Board) : List Action → List HistoryRequest
  | [] => []
  | action :: rest => (b.handsOut? action).toList ++ (b.perform action).requests rest

theorem requests_append (b : Board) (first rest : List Action) :
    b.requests (first ++ rest) = b.requests first ++ (b.run first).requests rest := by
  induction first generalizing b with
  | nil => rfl
  | cons action first ih => simp only [List.cons_append, requests, ih, run_cons, List.append_assoc]

theorem Consistent.ticket_handsOut (h : b.Consistent) {action : Action} {request : HistoryRequest}
    (hr : b.handsOut? action = some request) :
    request.ticket = b.nextTicket ∧ b.isOpening action = true ∧ b.Asks request := by
  cases action with
  | toggle key metrics =>
    have step := toggle_step h key metrics
    exact ⟨(step.request hr).1, (step.request hr).2.1, step.request_asks hr⟩
  | deliver _ _ => cases hr

/-- With words enough for an action and for what comes after it, there are enough after it, and
tickets are counted on if any is spent then. -/
theorem Consistent.few_perform (h : b.Consistent) {action : Action} {n : Nat}
    (hfew : b.nextTicket + ((if b.isOpening action then 1 else 0) + n) ≤ Decimal.wordSize) :
    (b.perform action).nextTicket + n ≤ Decimal.wordSize ∧
      (0 < n → (b.perform action).nextTicket =
        b.nextTicket + if b.isOpening action then 1 else 0) := by
  rw [h.nextTicket_perform]
  unfold ticketAfter Decimal.wordSize at *
  split at hfew
  next hopening =>
    rw [if_pos hopening, if_pos hopening]
    omega
  next hopening =>
    rw [if_neg hopening, if_neg hopening]
    omega

/-- As long as there are words enough, the tickets of a run are counted from the first one on. -/
theorem Consistent.ticket_bounds (h : b.Consistent) {actions : List Action}
    (hfew : b.nextTicket + b.openings actions ≤ Decimal.wordSize) {request : HistoryRequest}
    (hr : request ∈ b.requests actions) :
    b.nextTicket ≤ request.ticket ∧ request.ticket < b.nextTicket + b.openings actions := by
  induction actions generalizing b with
  | nil => cases hr
  | cons action rest ih =>
    rw [openings] at hfew ⊢
    rcases List.mem_append.mp hr with hr | hr
    · -- the first action has handed it out, with the ticket that was next
      obtain ⟨hticket, hopening, _⟩ := h.ticket_handsOut (Option.mem_toList.mp hr)
      rw [hopening, if_pos rfl]
      omega
    · obtain ⟨hrest, hcounted⟩ := h.few_perform hfew
      have hbounds := ih (h.perform action) hrest hr
      have hnext := hcounted (by omega)
      omega

theorem Consistent.tickets_increasing (h : b.Consistent) {actions : List Action}
    (hfew : b.nextTicket + b.openings actions ≤ Decimal.wordSize) :
    (b.requests actions).Pairwise fun r s => r.ticket < s.ticket := by
  induction actions generalizing b with
  | nil => exact List.Pairwise.nil
  | cons action rest ih =>
    obtain ⟨hrest, hcounted⟩ := h.few_perform hfew
    have hincreasing := ih (h.perform action) hrest
    rw [requests]
    cases hr : b.handsOut? action with
    | none => simpa using hincreasing
    | some request =>
      -- the ticket of this request is spent when the rest begins
      refine List.Pairwise.cons (fun later hlater => ?_) hincreasing
      obtain ⟨hticket, hopening, _⟩ := h.ticket_handsOut hr
      have hbounds := (h.perform action).ticket_bounds hrest hlater
      have hnext := hcounted (by omega)
      rw [hopening, if_pos rfl] at hnext
      omega

theorem Consistent.asks_of_mem_requests (h : b.Consistent) {actions : List Action}
    {request : HistoryRequest} (hr : request ∈ b.requests actions) : b.Asks request := by
  induction actions generalizing b with
  | nil => cases hr
  | cons action rest ih =>
    rcases List.mem_append.mp hr with hr | hr
    · exact (h.ticket_handsOut (Option.mem_toList.mp hr)).2.2
    · exact h.asks_perform.mp (ih (h.perform action) hr)

/-- The key and the ticket tell the requests of one run apart, since a key has one resource. -/
theorem Consistent.eq_of_alike (h : b.Consistent) {actions : List Action} {r s : HistoryRequest}
    (hr : r ∈ b.requests actions) (hs : s ∈ b.requests actions) (halike : Alike r s) : r = s := by
  obtain ⟨c, hc, hkey, hresource⟩ := h.asks_of_mem_requests hr
  obtain ⟨c', hc', hkey', hresource'⟩ := h.asks_of_mem_requests hs
  have heq : c = c' := eq_of_key_eq h.keys_nodup hc hc' (by rw [hkey, hkey', halike.1])
  rw [HistoryRequest.mk.injEq]
  exact ⟨halike.1, by rw [← hresource, ← hresource', heq], halike.2⟩

/-! ## Genuine runs -/

/-- A run in which only requests that were handed out before are answered, each as often as it
comes. -/
inductive Genuine (b : Board) : List Action → Prop where
  | nil : Genuine b []
  | toggle {actions : List Action} (key : CardKey) (metrics : Metrics) :
      Genuine b actions → Genuine b (actions ++ [.toggle key metrics])
  | deliver {actions : List Action} {request : HistoryRequest}
      (answer : Except LookupError (List HistoryPoint)) :
      Genuine b actions → request ∈ b.requests actions →
      Genuine b (actions ++ [.deliver request answer])

theorem Genuine.mem_requests {actions : List Action} (hgenuine : b.Genuine actions)
    {request : HistoryRequest} {answer : Except LookupError (List HistoryPoint)}
    (hmem : .deliver request answer ∈ actions) : request ∈ b.requests actions := by
  induction hgenuine with
  | nil => cases hmem
  | toggle key metrics _ ih =>
    rw [requests_append]
    apply List.mem_append_left
    rcases List.mem_append.mp hmem with hmem | hmem
    · exact ih hmem
    · simp at hmem
  | deliver answer' _ hr ih =>
    -- an answer hands out nothing, and its request was handed out before
    rw [requests_append]
    apply List.mem_append_left
    rcases List.mem_append.mp hmem with hmem | hmem
    · exact ih hmem
    · obtain ⟨rfl, _⟩ := Action.deliver.inj (List.mem_singleton.mp hmem)
      exact hr

/-- Where a genuine run hands out a request, the answers that disturb it later are its own. -/
theorem Genuine.disturbed_iff (h : b.Consistent) {pre post : List Action} {key : CardKey}
    {metrics : Metrics} (hgenuine : b.Genuine (pre ++ .toggle key metrics :: post))
    {request : HistoryRequest}
    (hr : ((b.run pre).toggle key metrics).1.request? = some request) :
    (∃ action ∈ post, ((b.run pre).toggle key metrics).2.Disturbs request action) ↔
      (∃ key' metrics', .toggle key' metrics' ∈ post ∧ b.CanOpen key') ∨
        ∃ answer, .deliver request answer ∈ post := by
  have hcan : ∀ key', ((b.run pre).toggle key metrics).2.CanOpen key' ↔ b.CanOpen key' := by
    intro key'
    have hrun : (b.run (pre ++ [.toggle key metrics])).CanOpen key' ↔ b.CanOpen key' :=
      h.canOpen_run _
    rwa [run_append] at hrun
  constructor
  · rintro ⟨action, hmem, haction⟩
    cases action with
    | toggle key' metrics' => exact Or.inl ⟨key', metrics', hmem, (hcan key').mp haction⟩
    | deliver other answer =>
      have hall : Action.deliver other answer ∈ pre ++ .toggle key metrics :: post :=
        List.mem_append_right _ (List.mem_cons_of_mem _ hmem)
      have hown : request ∈ b.requests (pre ++ .toggle key metrics :: post) := by
        rw [requests_append, requests, handsOut?, hr]
        simp
      -- what is alike among the requests of one run is the same, so it is answered here
      obtain rfl := h.eq_of_alike (hgenuine.mem_requests hall) hown haction
      exact Or.inr ⟨answer, hmem⟩
  · rintro (⟨key', metrics', hmem, hopen⟩ | ⟨answer, hmem⟩)
    · exact ⟨_, hmem, (hcan key').mpr hopen⟩
    · exact ⟨_, hmem, rfl, rfl⟩

/-! ## The main statement -/

/-- Along a genuine run of the board of a successful survey with fewer than `2 ^ 64` openings the
tickets of the requests grow, none beyond the number of openings. An answer to a request is stale
exactly if, since the request was handed out, a card was clicked that is no lamp or the request was
answered; any other answer is rendered as it came, or reported as the error it is. A stale answer
changes nothing. -/
theorem stale_iff_given_up {rules : RuleTable} {gateway : Gateway} {d : Dashboard}
    (hsurvey : (Survey.run rules gateway).result = .ok d) {actions : List Action}
    (hgenuine : (ofDashboard d).Genuine actions)
    (hfew : (ofDashboard d).openings actions < 2 ^ 64) :
    let start := ofDashboard d
    let b := start.run actions
    ((start.requests actions).Pairwise fun r s => r.ticket < s.ticket) ∧
    (∀ r ∈ start.requests actions, r.ticket ≤ start.openings actions) ∧
    (∀ pre key metrics post r, actions = pre ++ .toggle key metrics :: post →
      ((start.run pre).toggle key metrics).1.request? = some r → ∀ answer,
        ((b.deliver r answer).1 = .stale ↔
          (∃ key' metrics', .toggle key' metrics' ∈ post ∧ start.CanOpen key') ∨
            ∃ answer', .deliver r answer' ∈ post) ∧
        ((b.deliver r answer).1 ≠ .stale →
          (∀ points, answer = .ok points →
            ∃ chart, (b.deliver r answer).1 = .rendered chart ∧ chart.points = points) ∧
          (∀ cause, answer = .error cause →
            (b.deliver r answer).1 = .failed (.sensorHistory r.key.device r.resource cause)))) ∧
    (∀ r answer, (b.deliver r answer).1 = .stale → (b.deliver r answer).2 = b) := by
  have h := consistent_ofDashboard (Survey.fresh_of_run hsurvey)
  have hstart : (ofDashboard d).nextTicket = 1 := rfl
  have hwords : (ofDashboard d).nextTicket + (ofDashboard d).openings actions ≤
      Decimal.wordSize := by
    rw [hstart, Nat.add_comm]
    exact hfew
  refine ⟨h.tickets_increasing hwords, ?_, ?_, ?_⟩
  · -- the first ticket is one, so the last is as large as there are openings
    intro r hr
    have hbounds := h.ticket_bounds hwords hr
    omega
  · rintro pre key metrics post r rfl hr answer
    refine ⟨?_, (deliver_step (h.run _) r answer).of_taken⟩
    have hpre := h.run pre
    have step := toggle_step hpre key metrics
    have hawaited := (step.awaited?_of_canOpen hpre (step.request hr).2.2).trans hr
    have hpost : (((ofDashboard d).run pre).toggle key metrics).2.openings post < 2 ^ 64 := by
      rw [openings_append, openings] at hfew
      exact Nat.lt_of_le_of_lt (Nat.le_add_left_of_le (Nat.le_add_left ..)) hfew
    rw [run_append, run_cons, perform, ← hgenuine.disturbed_iff h hr]
    exact deliver_stale_iff_disturbed (hpre.toggle key metrics) hawaited hpost answer
  · intro r answer
    exact (deliver_step (h.run actions) r answer).eq_of_stale

/-- On the porch the thermometer is opened, the light is switched, and the answer comes: it cannot
come again. -/
theorem stale_iff_given_up_porch :
    let start := ofDashboard Survey.porchDashboard
    let request : HistoryRequest := ⟨⟨"porch", ".3303.0"⟩, ".3303.0.5700", 1⟩
    let actions := [.toggle ⟨"porch", ".3303.0"⟩ ⟨1200.0, 300.0⟩,
      .toggle ⟨"porch", ".1024.0"⟩ ⟨1200.0, 300.0⟩, .deliver request (.ok [])]
    (Survey.run .builtin Survey.porch).result = .ok Survey.porchDashboard ∧
      start.Genuine actions ∧ start.openings actions < 2 ^ 64 ∧
      ∀ answer, ((start.run actions).deliver request answer).1 = .stale := by
  intro start request actions
  have hopened := Genuine.toggle ⟨"porch", ".3303.0"⟩ ⟨1200.0, 300.0⟩ (Genuine.nil (b := start))
  have hswitched := hopened.toggle ⟨"porch", ".1024.0"⟩ ⟨1200.0, 300.0⟩
  have hgenuine : start.Genuine actions := hswitched.deliver (.ok []) (List.mem_singleton.mpr rfl)
  have hfew : start.openings actions < 2 ^ 64 := by decide +kernel
  refine ⟨Survey.run_porch, hgenuine, hfew, fun answer => ?_⟩
  obtain ⟨_, _, hstale, _⟩ := stale_iff_given_up Survey.run_porch hgenuine hfew
  apply (hstale [] _ _ _ request rfl rfl answer).1.mpr
  exact Or.inr ⟨.ok [], by simp [request]⟩

end SensorBoard.Board
