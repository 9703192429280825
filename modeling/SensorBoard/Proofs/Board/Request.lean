import SensorBoard.Proofs.Board.Run

/-!
# Requests

A click that opens a card without a history hands out a request with a fresh ticket, and the board
awaits the answer to that request alone. It awaits it until the next click on a card that can be
open, or until an answer comes that has the key and the ticket of the request. Tickets are words, so
after that it is not awaited again as long as there are fewer openings than words
(`deliver_stale_iff_disturbed`).
-/

namespace SensorBoard

namespace ToggleOutcome

/-- The request that a click has handed out. -/
def request? : ToggleOutcome → Option HistoryRequest
  | opening _ _ request => some request
  | _ => none

/-- Has the click opened a card, with a history at hand or without? -/
def isOpening : ToggleOutcome → Bool
  | opened _ _ => true
  | opening _ _ _ => true
  | _ => false

end ToggleOutcome

/-- The request that a card waits for. -/
def Card.awaited? (c : Card) : Option HistoryRequest :=
  match c.state with
  | .opening ticket => some ⟨c.key, c.sensor.resource, ticket⟩
  | _ => none

theorem Card.awaited?_eq_some_iff {c : Card} {request : HistoryRequest} :
    c.awaited? = some request ↔ c.state = .opening request.ticket ∧ request.key = c.key ∧
      request.resource = c.sensor.resource := by
  obtain ⟨key, resource, ticket⟩ := request
  rw [awaited?]
  cases c.state with
  | closed => simp
  | opened => simp
  | opening t =>
    simp only [Option.some.injEq, HistoryRequest.mk.injEq, CardState.opening.injEq]
    constructor
    · rintro ⟨rfl, rfl, rfl⟩
      exact ⟨rfl, rfl, rfl⟩
    · rintro ⟨rfl, rfl, rfl⟩
      exact ⟨rfl, rfl, rfl⟩

namespace Board

variable {b : Board}

/-- The request whose answer the board takes. -/
def awaited? (b : Board) : Option HistoryRequest := b.openCard?.bind Card.awaited?

/-- There is a card with the key, and it is no lamp. -/
def CanOpen (b : Board) (key : CardKey) : Prop := ∃ c ∈ b.cards, c.key = key ∧ c.isLamp = false

/-- There is a card with the key of the request, and it shows the resource of the request. -/
def Asks (b : Board) (request : HistoryRequest) : Prop :=
  ∃ c ∈ b.cards, c.key = request.key ∧ c.sensor.resource = request.resource

theorem Idle.awaited? (h : b.Idle) : b.awaited? = none := by
  rw [Board.awaited?, h.openCard?]
  rfl

theorem Shows.awaited? {card : Card} (h : b.Shows card) (hkeys : b.keys.Nodup) :
    b.awaited? = card.awaited? := by
  rw [Board.awaited?, h.openCard? hkeys]
  rfl

/-- What is awaited is awaited by the card that is shown. -/
theorem Consistent.shows_of_awaited (h : b.Consistent) {request : HistoryRequest}
    (hr : b.awaited? = some request) : ∃ card, b.Shows card ∧ card.awaited? = some request := by
  obtain hidle | ⟨card, hshows⟩ := h.layout
  · rw [hidle.awaited?] at hr
    cases hr
  · exact ⟨card, hshows, hshows.awaited? h.keys_nodup ▸ hr⟩

/-- A card that is opening is the one that is shown, so its request is what the board awaits. -/
theorem Consistent.awaited?_of_opening (h : b.Consistent) {c : Card} (hc : c ∈ b.cards)
    {ticket : Nat} (hstate : c.state = .opening ticket) :
    b.awaited? = some ⟨c.key, c.sensor.resource, ticket⟩ := by
  have hshows := h.shows_of_isOpen hc (Card.isOpen_of_opening hstate)
  rw [hshows.awaited? h.keys_nodup, Card.awaited?, hstate]

/-- What is awaited has the ticket that was spent last. -/
theorem Consistent.ticketAfter_awaited (h : b.Consistent) {request : HistoryRequest}
    (hr : b.awaited? = some request) :
    request.ticket < Decimal.wordSize ∧ ticketAfter request.ticket = b.nextTicket := by
  obtain ⟨card, hshows, hcard⟩ := h.shows_of_awaited hr
  exact (h.waiting card hshows.mem _ (Card.awaited?_eq_some_iff.mp hcard).1).2

theorem canOpen_iff_blanks {key : CardKey} :
    b.CanOpen key ↔ ∃ c ∈ b.blanks, c.key = key ∧ c.isLamp = false := by
  simp [CanOpen, blanks]

theorem Consistent.canOpen_run (h : b.Consistent) (actions : List Action) {key : CardKey} :
    (b.run actions).CanOpen key ↔ b.CanOpen key := by
  rw [canOpen_iff_blanks, h.blanks_run actions, ← canOpen_iff_blanks]

theorem asks_iff_blanks {request : HistoryRequest} : b.Asks request ↔
    ∃ c ∈ b.blanks, c.key = request.key ∧ c.sensor.resource = request.resource := by
  simp [Asks, blanks, Card.blank, Card.key]

theorem Consistent.asks_perform (h : b.Consistent) {action : Action} {request : HistoryRequest} :
    (b.perform action).Asks request ↔ b.Asks request := by
  rw [asks_iff_blanks, h.blanks_perform action, ← asks_iff_blanks]

/-- A key has one card, so it is that of a lamp or it can open. -/
theorem not_canOpen_of_lamp (hkeys : b.keys.Nodup) {card : Card} (hmem : card ∈ b.cards)
    (hlamp : card.isLamp = true) : ¬ b.CanOpen card.key := by
  rintro ⟨c, hc, hkey, hnot⟩
  rw [eq_of_key_eq hkeys hc hmem hkey, hlamp] at hnot
  cases hnot

/-! ## What clicks do to requests -/

section Toggle

variable {key : CardKey} {metrics : Metrics} {outcome : ToggleOutcome} {b' : Board}

theorem request?_opens (c : Card) (placement : Placement) (slot ticket : Nat) :
    (c.opens placement slot ticket).request? = (c.beginOpen ticket).awaited? := by
  rw [Card.opens, Card.awaited?, Card.beginOpen]
  cases c.history <;> rfl

theorem isOpening_opens (c : Card) (placement : Placement) (slot ticket : Nat) :
    (c.opens placement slot ticket).isOpening = true := by
  rw [Card.opens]
  cases c.history <;> rfl

/-- A click on a card that can be open makes the board await what it hands out, if anything. -/
theorem ToggleStep.awaited?_of_canOpen (step : b.ToggleStep key metrics outcome b')
    (h : b.Consistent) (hopen : b.CanOpen key) : b'.awaited? = outcome.request? := by
  have hb' := step.consistent h
  cases step with
  | unknown hkey =>
    -- the card that can be open would be unknown
    obtain ⟨c, hc, rfl, _⟩ := hopen
    exact absurd (key_mem_keys hc) hkey
  | switched hmem hkey hlamp =>
    exact absurd (hkey ▸ hopen)
      (not_canOpen_of_lamp h.keys_nodup hmem (Card.isLamp_of_lamp_eq_some hlamp))
  | closed _ _ _ _ => exact h.idle_cleared.awaited?
  | opened hmem hkey _ hclosed =>
    have hslot : Grid.slotIn b.keys key metrics ≤ b.cleared.keys.length := by
      rw [keys_cleared]
      exact Grid.slotIn_le (hkey ▸ key_mem_keys hmem) metrics
    have hshows := h.idle_cleared.shows_opened (mem_cleared_of_isOpen_eq_false hmem hclosed) hslot
    rw [hshows.awaited? hb'.keys_nodup, request?_opens]
    rfl

/-- Any other click changes nothing of this. -/
theorem ToggleStep.frame_of_not_canOpen (step : b.ToggleStep key metrics outcome b')
    (h : b.Consistent) (hopen : ¬ b.CanOpen key) :
    b'.awaited? = b.awaited? ∧ b'.nextTicket = b.nextTicket ∧ outcome.request? = none ∧
      outcome.isOpening = false := by
  have hb' := step.consistent h
  cases step with
  | unknown _ => exact ⟨rfl, rfl, rfl, rfl⟩
  | @switched card _ hmem hkey hlamp =>
    -- the lamp is not the card that is shown, so that card stays the open one
    refine ⟨?_, rfl, rfl, rfl⟩
    have hlamp := Card.isLamp_of_lamp_eq_some hlamp
    have hclosed : card.switch.isOpen = false := (h.lamps card hmem hlamp).1
    obtain hidle | ⟨c, hshows⟩ := h.layout
    · rw [hidle.awaited?, (hidle.replaceCard hclosed).awaited?]
    · have hne := hshows.key_ne_of_lamp h hmem hlamp
      rw [hshows.awaited? h.keys_nodup,
        (hshows.replaceCard hclosed hne).awaited? hb'.keys_nodup]
  | closed hmem hkey hlamp _ => exact absurd ⟨_, hmem, hkey, hlamp⟩ hopen
  | opened hmem hkey hlamp _ => exact absurd ⟨_, hmem, hkey, hlamp⟩ hopen

/-- A ticket is spent by every opening, and by nothing else. -/
theorem ToggleStep.nextTicket (step : b.ToggleStep key metrics outcome b') :
    b'.nextTicket = if outcome.isOpening then ticketAfter b.nextTicket else b.nextTicket := by
  cases step with
  | unknown _ => rfl
  | switched _ _ _ => rfl
  | closed _ _ _ _ => rfl
  | opened _ _ _ _ =>
    rw [isOpening_opens]
    rfl

/-- A request carries the ticket that was next, for the card that was clicked. -/
theorem ToggleStep.request (step : b.ToggleStep key metrics outcome b') {request : HistoryRequest}
    (hr : outcome.request? = some request) :
    request.ticket = b.nextTicket ∧ outcome.isOpening = true ∧ b.CanOpen key := by
  cases step with
  | unknown _ => cases hr
  | switched _ _ _ => cases hr
  | closed _ _ _ _ => cases hr
  | @opened card hmem hkey hlamp _ =>
    refine ⟨?_, isOpening_opens .., card, hmem, hkey, hlamp⟩
    rw [Card.opens] at hr
    split at hr
    · cases hr
    · obtain rfl := Option.some.inj hr
      rfl

theorem ToggleStep.request_key (step : b.ToggleStep key metrics outcome b')
    {request : HistoryRequest} (hr : outcome.request? = some request) : request.key = key := by
  cases step with
  | unknown _ => cases hr
  | switched _ _ _ => cases hr
  | closed _ _ _ _ => cases hr
  | opened _ hkey _ _ =>
    rw [request?_opens, Card.awaited?_eq_some_iff] at hr
    exact hr.2.1.trans hkey

/-- The request is for the resource of the card with its key. -/
theorem ToggleStep.request_asks (step : b.ToggleStep key metrics outcome b')
    {request : HistoryRequest} (hr : outcome.request? = some request) : b.Asks request := by
  cases step with
  | unknown _ => cases hr
  | switched _ _ _ => cases hr
  | closed _ _ _ _ => cases hr
  | @opened card hmem _ _ _ =>
    rw [request?_opens, Card.awaited?_eq_some_iff] at hr
    exact ⟨card, hmem, hr.2.1.symm, hr.2.2.symm⟩

/-- What the board awaits after a click was awaited before, or this click has asked for it. -/
theorem ToggleStep.awaited?_eq_some (step : b.ToggleStep key metrics outcome b')
    (h : b.Consistent) {request : HistoryRequest} (hr : b'.awaited? = some request) :
    b.awaited? = some request ∨ (outcome.request? = some request ∧ request.key = key) := by
  by_cases hopen : b.CanOpen key
  · rw [step.awaited?_of_canOpen h hopen] at hr
    exact Or.inr ⟨hr, step.request_key hr⟩
  · rw [(step.frame_of_not_canOpen h hopen).1] at hr
    exact Or.inl hr

end Toggle

/-! ## What answers do to requests -/

section Deliver

variable {request : HistoryRequest} {answer : Except LookupError (List HistoryPoint)}

/-- The answer to one request would be taken for that of the other: answers are told apart by the
card and the ticket alone. -/
def Alike (r s : HistoryRequest) : Prop := r.key = s.key ∧ r.ticket = s.ticket

/-- A board takes an answer exactly if it awaits a request of that card and that ticket. -/
theorem deliver_stale_iff (h : b.Consistent) :
    (b.deliver request answer).1 = .stale ↔ ∀ p, b.awaited? = some p → ¬ Alike p request := by
  constructor
  · rintro hstale p hp ⟨hkey, hticket⟩
    obtain ⟨card, hshows, hcard⟩ := h.shows_of_awaited hp
    obtain ⟨hstate, hpkey, _⟩ := Card.awaited?_eq_some_iff.mp hcard
    -- the card that is shown waits with this key and this ticket
    rw [deliver_of_waiting h hshows (hpkey ▸ hkey) (hticket ▸ hstate)] at hstale
    cases answer <;> cases hstale
  · -- a card that waits with the key and the ticket would be awaited
    intro hnone
    have hwait : ∀ c ∈ b.cards, c.key = request.key → c.state ≠ .opening request.ticket := by
      intro c hc hkey hstate
      exact hnone _ (h.awaited?_of_opening hc hstate) ⟨hkey, rfl⟩
    rw [deliver_of_not_waiting hwait]

variable {delivery : Delivery} {b' : Board}

theorem DeliverStep.eq_of_stale (step : b.DeliverStep request answer delivery b')
    (hstale : delivery = .stale) : b' = b := by
  cases step with
  | stale _ => rfl
  | taken _ _ _ => cases answer <;> cases hstale

/-- Once an answer was taken, nothing is awaited. -/
theorem DeliverStep.awaited?_of_taken (step : b.DeliverStep request answer delivery b')
    (h : b.Consistent) (htaken : delivery ≠ .stale) : b'.awaited? = none := by
  have hb' := step.consistent h
  cases step with
  | stale _ => exact absurd rfl htaken
  | taken hshows _ _ =>
    rw [(hshows.settled answer).awaited? hb'.keys_nodup]
    cases answer <;> rfl

/-- What the board awaits after an answer was awaited before, and the answer was to another
request. -/
theorem awaited?_deliver_eq_some (h : b.Consistent) {p : HistoryRequest}
    (hp : (b.deliver request answer).2.awaited? = some p) :
    b.awaited? = some p ∧ ¬ Alike p request := by
  have step := deliver_step h request answer
  by_cases hstale : (b.deliver request answer).1 = .stale
  · rw [step.eq_of_stale hstale] at hp
    exact ⟨hp, (deliver_stale_iff h).mp hstale p hp⟩
  · rw [step.awaited?_of_taken h hstale] at hp
    cases hp

theorem DeliverStep.nextTicket (step : b.DeliverStep request answer delivery b') :
    b'.nextTicket = b.nextTicket := by
  cases step with
  | stale _ => rfl
  | taken _ _ _ => rfl

/-- What was taken is rendered as it came, and an error is reported for the resource that the
request names. -/
theorem DeliverStep.of_taken (step : b.DeliverStep request answer delivery b')
    (htaken : delivery ≠ .stale) :
    (∀ points, answer = .ok points →
      ∃ chart, delivery = .rendered chart ∧ chart.points = points) ∧
    (∀ cause, answer = .error cause →
      delivery = .failed (.sensorHistory request.key.device request.resource cause)) := by
  cases step with
  | stale _ => exact absurd rfl htaken
  | taken _ _ _ =>
    constructor
    · rintro points rfl
      exact ⟨_, rfl, rfl⟩
    · rintro cause rfl
      rfl

end Deliver

/-! ## Openings -/

/-- Does an action open a card? -/
def isOpening (b : Board) : Action → Bool
  | .toggle key metrics => (b.toggle key metrics).1.isOpening
  | .deliver _ _ => false

/-- The number of openings along a run. -/
def openings (b : Board) : List Action → Nat
  | [] => 0
  | action :: rest => (if b.isOpening action then 1 else 0) + (b.perform action).openings rest

theorem openings_append (b : Board) (first rest : List Action) :
    b.openings (first ++ rest) = b.openings first + (b.run first).openings rest := by
  induction first generalizing b with
  | nil => rw [List.nil_append, openings, run_nil, Nat.zero_add]
  | cons action first ih => rw [List.cons_append, openings, ih, openings, run_cons, Nat.add_assoc]

theorem Consistent.nextTicket_perform (h : b.Consistent) (action : Action) :
    (b.perform action).nextTicket =
      if b.isOpening action then ticketAfter b.nextTicket else b.nextTicket := by
  cases action with
  | toggle key metrics => exact (toggle_step h key metrics).nextTicket
  | deliver request answer => exact (deliver_step h request answer).nextTicket

/-- Every opening spends one ticket. -/
theorem Consistent.nextTicket_run (h : b.Consistent) (actions : List Action) :
    (b.run actions).nextTicket = (b.nextTicket + b.openings actions) % Decimal.wordSize := by
  induction actions generalizing b with
  | nil => exact (Nat.mod_eq_of_lt h.word).symm
  | cons action rest ih =>
    rw [run_cons, ih (h.perform action), h.nextTicket_perform, openings]
    cases b.isOpening action with
    | true =>
      simp only [if_true]
      rw [ticketAfter, Nat.mod_add_mod, Nat.add_assoc]
    | false =>
      simp only [Bool.false_eq_true, if_false, Nat.zero_add]

/-! ## From the opening on -/

/-- Ends the wait for the request: a click on a card that can be open, or an answer that is taken
for the one that is awaited. -/
def Disturbs (b : Board) (request : HistoryRequest) : Action → Prop
  | .toggle key _ => b.CanOpen key
  | .deliver other _ => Alike other request

/-- The request was handed out before, there were some openings since, and its ticket is not
awaited. -/
structure Past (b : Board) (request : HistoryRequest) (since : Nat) : Prop where
  ticket_lt : request.ticket < Decimal.wordSize
  nextTicket_eq : b.nextTicket = (request.ticket + 1 + since) % Decimal.wordSize
  awaited_ne : ∀ p, b.awaited? = some p → p.ticket ≠ request.ticket

/-- As long as nothing disturbs the request, it is awaited and no ticket is spent. -/
theorem perform_of_undisturbed (h : b.Consistent) {request : HistoryRequest}
    (hr : b.awaited? = some request) {action : Action} (haction : ¬ b.Disturbs request action) :
    (b.perform action).awaited? = some request ∧ (b.perform action).nextTicket = b.nextTicket := by
  cases action with
  | toggle key metrics =>
    obtain ⟨hawaited, hnext, _⟩ := (toggle_step h key metrics).frame_of_not_canOpen h haction
    exact ⟨hawaited.trans hr, hnext⟩
  | deliver other answer =>
    have hstale : (b.deliver other answer).1 = .stale := by
      refine (deliver_stale_iff h).mpr fun p hp halike => haction ?_
      obtain rfl := Option.some.inj (hr.symm.trans hp)
      exact ⟨halike.1.symm, halike.2.symm⟩
    rw [perform, (deliver_step h other answer).eq_of_stale hstale]
    exact ⟨hr, rfl⟩

/-- A request that is past does not come back with fewer openings than there are words. -/
theorem Past.perform (h : b.Consistent) {request : HistoryRequest} {since : Nat}
    (hpast : b.Past request since) {action : Action}
    (hfew : since + (if b.isOpening action then 1 else 0) < Decimal.wordSize) :
    (b.perform action).Past request (since + if b.isOpening action then 1 else 0) := by
  have hnext := hpast.nextTicket_eq
  refine ⟨hpast.ticket_lt, ?_, fun p hp => ?_⟩
  · rw [h.nextTicket_perform]
    split
    · rw [hnext, ticketAfter, Nat.mod_add_mod, Nat.add_assoc]
    · exact hnext
  · cases action with
    | toggle key metrics =>
      have step := toggle_step h key metrics
      rw [Board.perform] at hp
      by_cases hopen : b.CanOpen key
      · -- whatever is awaited now was handed out by this click, with a ticket not spent since
        rw [step.awaited?_of_canOpen h hopen] at hp
        obtain ⟨hticket, hopening, _⟩ := step.request hp
        have hlt := hpast.ticket_lt
        rw [isOpening, if_pos hopening] at hfew
        rw [hticket, hnext]
        unfold Decimal.wordSize at *
        omega
      · rw [(step.frame_of_not_canOpen h hopen).1] at hp
        exact hpast.awaited_ne p hp
    | deliver other answer =>
      have step := deliver_step h other answer
      rw [Board.perform] at hp
      by_cases hstale : (b.deliver other answer).1 = .stale
      · rw [step.eq_of_stale hstale] at hp
        exact hpast.awaited_ne p hp
      · rw [step.awaited?_of_taken h hstale] at hp
        cases hp

theorem Past.run (h : b.Consistent) {request : HistoryRequest} {since : Nat}
    (hpast : b.Past request since) {actions : List Action}
    (hfew : since + b.openings actions < Decimal.wordSize) :
    (b.run actions).Past request (since + b.openings actions) := by
  induction actions generalizing b since with
  | nil => exact hpast
  | cons action rest ih =>
    rw [openings, ← Nat.add_assoc] at hfew ⊢
    have hfirst := Nat.lt_of_le_of_lt (Nat.le_add_right ..) hfew
    exact ih (h.perform action) (hpast.perform h hfirst) hfew

theorem past_perform_of_disturbed (h : b.Consistent) {request : HistoryRequest}
    (hr : b.awaited? = some request) {action : Action} (haction : b.Disturbs request action) :
    (b.perform action).Past request (if b.isOpening action then 1 else 0) := by
  obtain ⟨hlt, hlast⟩ := h.ticketAfter_awaited hr
  refine ⟨hlt, ?_, fun p hp => ?_⟩
  · rw [h.nextTicket_perform, ← hlast]
    split
    · rw [ticketAfter, ticketAfter, Nat.mod_add_mod]
    · rw [ticketAfter, Nat.add_zero]
  · cases action with
    | toggle key metrics =>
      -- what is awaited after the click has the next ticket, if anything is
      have step := toggle_step h key metrics
      rw [perform, step.awaited?_of_canOpen h haction] at hp
      rw [(step.request hp).1, ← hlast]
      exact ticketAfter_ne request.ticket
    | deliver other answer =>
      have htaken : (b.deliver other answer).1 ≠ .stale := by
        intro hstale
        exact (deliver_stale_iff h).mp hstale request hr ⟨haction.1.symm, haction.2.symm⟩
      rw [perform, (deliver_step h other answer).awaited?_of_taken h htaken] at hp
      cases hp

/-- What disturbs a request is the same all along a run. -/
theorem Consistent.disturbs_run (h : b.Consistent) (actions : List Action)
    {request : HistoryRequest} {other : Action} :
    (b.run actions).Disturbs request other ↔ b.Disturbs request other := by
  cases other with
  | toggle key metrics => exact h.canOpen_run actions
  | deliver _ _ => exact Iff.rfl

/-- Along a run a request is awaited until it is disturbed. -/
theorem awaited_run_of_undisturbed (h : b.Consistent) {request : HistoryRequest}
    (hr : b.awaited? = some request) {actions : List Action}
    (hnone : ∀ action ∈ actions, ¬ b.Disturbs request action) :
    (b.run actions).awaited? = some request ∧ (b.run actions).nextTicket = b.nextTicket := by
  induction actions generalizing b with
  | nil => exact ⟨hr, rfl⟩
  | cons action rest ih =>
    obtain ⟨haction, hrest⟩ := List.forall_mem_cons.mp hnone
    obtain ⟨hr', hnext⟩ := perform_of_undisturbed h hr haction
    obtain ⟨hrun, hspent⟩ := ih (h.perform action) hr' fun other hmem hother =>
      hrest other hmem ((h.disturbs_run [action]).mp hother)
    exact ⟨hrun, hspent.trans hnext⟩

/-- Once it was disturbed, it is past. -/
theorem past_run_of_disturbed (h : b.Consistent) {request : HistoryRequest}
    (hr : b.awaited? = some request) {actions : List Action}
    (hfew : b.openings actions < Decimal.wordSize)
    (hsome : ∃ action ∈ actions, b.Disturbs request action) :
    ∃ since, (b.run actions).Past request since := by
  induction actions generalizing b with
  | nil => simp at hsome
  | cons action rest ih =>
    have h' := h.perform action
    rw [openings] at hfew
    -- the first action that disturbs the request makes it past for good
    by_cases haction : b.Disturbs request action
    · exact ⟨_, (past_perform_of_disturbed h hr haction).run h' hfew⟩
    · obtain ⟨hr', _⟩ := perform_of_undisturbed h hr haction
      obtain ⟨other, hmem, hother⟩ := hsome
      rcases List.mem_cons.mp hmem with rfl | hmem
      · exact absurd hother haction
      · exact ih h' hr' (Nat.lt_of_le_of_lt (Nat.le_add_left ..) hfew)
          ⟨other, hmem, (h.disturbs_run [action]).mpr hother⟩

/-- From the opening on, an answer to the request is stale exactly if something has ended the wait
for it. -/
theorem deliver_stale_iff_disturbed (h : b.Consistent) {request : HistoryRequest}
    (hr : b.awaited? = some request) {actions : List Action}
    (hfew : b.openings actions < Decimal.wordSize)
    (answer : Except LookupError (List HistoryPoint)) :
    ((b.run actions).deliver request answer).1 = .stale ↔
      ∃ action ∈ actions, b.Disturbs request action := by
  rw [deliver_stale_iff (h.run actions)]
  constructor
  · intro hall
    by_contra hnone
    have hundisturbed : ∀ action ∈ actions, ¬ b.Disturbs request action :=
      fun action hmem haction => hnone ⟨action, hmem, haction⟩
    exact hall request (awaited_run_of_undisturbed h hr hundisturbed).1 ⟨rfl, rfl⟩
  · intro hsome p hp halike
    obtain ⟨_, hpast⟩ := past_run_of_disturbed h hr hfew hsome
    exact hpast.awaited_ne p hp halike.2

end Board

end SensorBoard
