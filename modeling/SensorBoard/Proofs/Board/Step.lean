import SensorBoard.Proofs.Board.Consistent

/-!
# Steps of a board

Two things happen to a board: clicks and answers. Here is said once what either can do to a
consistent board (`toggle_step`, `deliver_step`), and that it leaves the board consistent
(`Consistent.toggle`, `Consistent.deliver`). All that is proved of boards later is proved from these.
-/

namespace SensorBoard

/-- What a click that opens the card answers: the card with its history is opened, and any other
hands out a request for it. -/
def Card.opens (placement : Placement) (slot ticket : Nat) (c : Card) : ToggleOutcome :=
  if c.history.isSome then .opened placement slot
  else .opening placement slot ⟨c.key, c.sensor.resource, ticket⟩

/-- What an awaited answer does. -/
def Card.takes (request : HistoryRequest) (answer : Except LookupError (List HistoryPoint))
    (c : Card) : Delivery :=
  match answer with
  | .ok points => .rendered ⟨c.sensor.quantity.label, c.units, points⟩
  | .error cause => .failed (.sensorHistory request.key.device request.resource cause)

namespace Board

variable {b : Board}

/-- The board with a card opened and the panel in a slot. -/
def opened (b : Board) (card : Card) (slot : Nat) : Board :=
  { b.replaceCard (card.beginOpen b.nextTicket) with
    grid := (Grid.ofKeys b.keys).insertDetail slot
    panel := some (.ofCard (card.beginOpen b.nextTicket))
    nextTicket := ticketAfter b.nextTicket }

/-- The board with an answer taken by the card that waited for it. -/
def settled (b : Board) (card : Card) (answer : Except LookupError (List HistoryPoint)) : Board :=
  { b.replaceCard (card.settle answer) with panel := some (.ofCard (card.settle answer)) }

@[simp] theorem keys_opened (b : Board) (card : Card) (slot : Nat) :
    (b.opened card slot).keys = b.keys :=
  keys_replaceCard b _

@[simp] theorem keys_settled (b : Board) (card : Card)
    (answer : Except LookupError (List HistoryPoint)) : (b.settled card answer).keys = b.keys :=
  keys_replaceCard b _

/-! ## What a click does -/

/-- The things a click on a consistent board can do. -/
inductive ToggleStep (b : Board) (key : CardKey) (metrics : Metrics) :
    ToggleOutcome → Board → Prop where
  | unknown (hkey : key ∉ b.keys) : ToggleStep b key metrics .unknown b
  -- a lamp is switched in its place, and nothing else is touched
  | switched {card : Card} {on : Bool} (hmem : card ∈ b.cards) (hkey : card.key = key)
      (hlamp : card.lamp = some on) :
      ToggleStep b key metrics (.switched !on) (b.replaceCard card.switch)
  | closed {card : Card} (hmem : card ∈ b.cards) (hkey : card.key = key) (hlamp : card.isLamp = false)
      (hopen : card.isOpen = true) : ToggleStep b key metrics .closed b.cleared
  -- all others are closed first, and with them goes the old panel
  | opened {card : Card} (hmem : card ∈ b.cards) (hkey : card.key = key)
      (hlamp : card.isLamp = false) (hopen : card.isOpen = false) :
      ToggleStep b key metrics
        (card.opens (Grid.placementIn b.keys key metrics) (Grid.slotIn b.keys key metrics)
          b.nextTicket)
        (b.cleared.opened card (Grid.slotIn b.keys key metrics))

theorem openCard_of_found {card : Card} {metrics : Metrics} {grid : Grid} {placement : Placement}
    {slot : Nat} (h : b.grid.openDetail card.key metrics = (grid, some (placement, slot))) :
    b.openCard card metrics = (card.opens placement slot b.nextTicket,
      { b.replaceCard (card.beginOpen b.nextTicket) with
        grid := grid
        panel := some ⟨card.key, true, card.chart?⟩
        nextTicket := ticketAfter b.nextTicket }) := by
  rw [openCard, h, Card.opens]
  cases card.history <;> rfl

/-- A card of a cleared board is always found by the grid. -/
theorem openCard_eq (h : b.Consistent) {card : Card} (hmem : card ∈ b.cards) (metrics : Metrics) :
    b.cleared.openCard card metrics =
      (card.opens (Grid.placementIn b.keys card.key metrics) (Grid.slotIn b.keys card.key metrics)
        b.nextTicket, b.cleared.opened card (Grid.slotIn b.keys card.key metrics)) := by
  have hgrid : b.cleared.grid.keys = b.keys := by
    show b.grid.withoutDetail.keys = b.keys
    rw [Grid.withoutDetail_eq_ofKeys, Grid.keys_ofKeys, h.keys_grid]
  have hkey : card.key ∈ b.cleared.grid.keys := hgrid ▸ key_mem_keys hmem
  have hopen := Grid.openDetail_of_mem hkey metrics
  rw [hgrid] at hopen
  rw [openCard_of_found hopen, opened, keys_cleared]
  rfl

theorem toggle_of_lamp (h : b.Consistent) {card : Card} (hmem : card ∈ b.cards) {on : Bool}
    (hlamp : card.lamp = some on) (metrics : Metrics) :
    b.toggle card.key metrics = (.switched !on, b.replaceCard card.switch) := by
  rw [toggle, card?_of_mem h.keys_nodup hmem]
  simp only [hlamp]

theorem toggle_of_open (h : b.Consistent) {card : Card} (hmem : card ∈ b.cards)
    (hlamp : card.lamp = none) (hopen : card.isOpen = true) (metrics : Metrics) :
    b.toggle card.key metrics = (.closed, b.cleared) := by
  rw [toggle, card?_of_mem h.keys_nodup hmem]
  simp only [hlamp, hopen, if_true]

theorem toggle_of_closed (h : b.Consistent) {card : Card} (hmem : card ∈ b.cards)
    (hlamp : card.lamp = none) (hopen : card.isOpen = false) (metrics : Metrics) :
    b.toggle card.key metrics =
      (card.opens (Grid.placementIn b.keys card.key metrics) (Grid.slotIn b.keys card.key metrics)
        b.nextTicket, b.cleared.opened card (Grid.slotIn b.keys card.key metrics)) := by
  rw [toggle, card?_of_mem h.keys_nodup hmem]
  simp only [hlamp, hopen, Bool.false_eq_true, if_false, openCard_eq h hmem]

theorem toggle_step (h : b.Consistent) (key : CardKey) (metrics : Metrics) :
    b.ToggleStep key metrics (b.toggle key metrics).1 (b.toggle key metrics).2 := by
  cases hcard : b.card? key with
  | none =>
    simp only [toggle, hcard]
    exact .unknown (card?_eq_none_iff.mp hcard)
  | some card =>
    obtain ⟨hmem, rfl⟩ := mem_of_card? hcard
    cases hlamp : card.lamp with
    | some on =>
      rw [toggle_of_lamp h hmem hlamp]
      exact .switched hmem rfl hlamp
    | none =>
      have hnot : card.isLamp = false := by rw [Card.isLamp, hlamp]; rfl
      cases hopen : card.isOpen with
      | true =>
        rw [toggle_of_open h hmem hlamp hopen]
        exact .closed hmem rfl hnot hopen
      | false =>
        rw [toggle_of_closed h hmem hlamp hopen]
        exact .opened hmem rfl hnot hopen

/-! ## What an answer does -/

/-- The things an answer to a consistent board can do. -/
inductive DeliverStep (b : Board) (request : HistoryRequest)
    (answer : Except LookupError (List HistoryPoint)) : Delivery → Board → Prop where
  -- no card with the key waits with the ticket
  | stale (hwait : ∀ c ∈ b.cards, c.key = request.key → c.state ≠ .opening request.ticket) :
      DeliverStep b request answer .stale b
  -- only the card that is shown can wait, so the panel is its panel
  | taken {card : Card} (hshows : b.Shows card) (hkey : card.key = request.key)
      (hstate : card.state = .opening request.ticket) :
      DeliverStep b request answer (card.takes request answer) (b.settled card answer)

/-- An answer that nothing waits for is dropped, with or without a panel. -/
theorem deliver_of_not_waiting {request : HistoryRequest}
    (hwait : ∀ c ∈ b.cards, c.key = request.key → c.state ≠ .opening request.ticket)
    (answer : Except LookupError (List HistoryPoint)) :
    b.deliver request answer = (.stale, b) := by
  rw [deliver]
  cases hcard : b.card? request.key with
  | none => rfl
  | some card =>
    obtain ⟨hmem, hkey⟩ := mem_of_card? hcard
    have hstate := hwait card hmem hkey
    cases b.panelOf? request.key with
    | none => rfl
    | some panel => cases answer <;> simp [Card.accept?, Card.fail?, hstate]

theorem deliver_of_waiting (h : b.Consistent) {request : HistoryRequest} {card : Card}
    (hshows : b.Shows card) (hkey : card.key = request.key)
    (hstate : card.state = .opening request.ticket)
    (answer : Except LookupError (List HistoryPoint)) :
    b.deliver request answer = (card.takes request answer, b.settled card answer) := by
  have hcard : b.card? request.key = some card := hkey ▸ card?_of_mem h.keys_nodup hshows.mem
  have hpanel : b.panelOf? request.key = some (.ofCard card) := by
    rw [panelOf?, hshows.panel]
    simp [Panel.ofCard, hkey]
  rw [deliver, hcard, hpanel]
  cases answer with
  | ok points =>
    simp only [Card.accept?, hstate, if_true, Card.takes, settled, Card.settle]
    rfl
  | error cause =>
    -- the panel stays as it is, which is the panel of a card that has still no history
    simp only [Card.fail?, hstate, if_true, Card.takes, settled, Card.settle]
    rw [replaceCard, hshows.panel]
    rfl

theorem deliver_step (h : b.Consistent) (request : HistoryRequest)
    (answer : Except LookupError (List HistoryPoint)) :
    b.DeliverStep request answer (b.deliver request answer).1 (b.deliver request answer).2 := by
  by_cases hwait : ∃ c ∈ b.cards, c.key = request.key ∧ c.state = .opening request.ticket
  · obtain ⟨card, hmem, hkey, hstate⟩ := hwait
    have hshows := h.shows_of_isOpen hmem (Card.isOpen_of_opening hstate)
    rw [deliver_of_waiting h hshows hkey hstate]
    exact .taken hshows hkey hstate
  · have hnot : ∀ c ∈ b.cards, c.key = request.key → c.state ≠ .opening request.ticket :=
      fun c hc hkey hstate => hwait ⟨c, hc, hkey, hstate⟩
    rw [deliver_of_not_waiting hnot]
    exact .stale hnot

/-! ## What the steps keep -/

theorem Idle.replaceCard (h : b.Idle) {card : Card} (hopen : card.isOpen = false) :
    (b.replaceCard card).Idle where
  grid := (keys_replaceCard b card).symm ▸ h.grid
  panel := h.panel
  closed := by
    apply forall_mem_replaceCard
    · exact hopen
    · exact fun c hc _ => h.closed c hc

theorem Shows.replaceCard {c card : Card} (h : b.Shows c) (hopen : card.isOpen = false)
    (hkey : c.key ≠ card.key) : (b.replaceCard card).Shows c where
  mem := mem_replaceCard_iff.mpr (Or.inr ⟨h.mem, hkey⟩)
  isOpen := h.isOpen
  others := by
    apply forall_mem_replaceCard
    · exact fun _ => hopen
    · exact fun c' hc' _ hne => h.others c' hc' hne
  panel := h.panel
  grid := (keys_replaceCard b card).symm ▸ h.grid

theorem Shows.key_ne_of_lamp {c card : Card} (hshows : b.Shows c) (h : b.Consistent)
    (hmem : card ∈ b.cards) (hlamp : card.isLamp = true) : c.key ≠ card.key := by
  -- the card that is shown is open, and a lamp never is
  intro hkey
  have heq : c = card := eq_of_key_eq h.keys_nodup hshows.mem hmem hkey
  have hopen := hshows.isOpen
  rw [heq, (h.lamps card hmem hlamp).1] at hopen
  cases hopen

theorem Consistent.switch (h : b.Consistent) {card : Card} (hmem : card ∈ b.cards)
    (hlamp : card.isLamp = true) : (b.replaceCard card.switch).Consistent where
  keys_nodup := (keys_replaceCard b _).symm ▸ h.keys_nodup
  lamps := by
    apply forall_mem_replaceCard
    · exact fun _ => h.lamps card hmem hlamp
    · exact fun c hc _ => h.lamps c hc
  word := h.word
  waiting := by
    apply forall_mem_replaceCard
    · exact h.waiting card hmem
    · exact fun c hc _ => h.waiting c hc
  layout := by
    -- what is shown is another card, or nothing
    have hclosed : card.switch.isOpen = false := (h.lamps card hmem hlamp).1
    obtain hidle | ⟨c, hc⟩ := h.layout
    · exact Or.inl (hidle.replaceCard hclosed)
    · have hne := hc.key_ne_of_lamp h hmem hlamp
      exact Or.inr ⟨c, hc.replaceCard hclosed hne⟩

theorem Consistent.idle_cleared (h : b.Consistent) : b.cleared.Idle where
  grid := by
    show b.grid.withoutDetail = .ofKeys b.cleared.keys
    rw [Grid.withoutDetail_eq_ofKeys, h.keys_grid, keys_cleared]
  panel := rfl
  closed := by
    intro c hc
    obtain ⟨c₀, _, rfl⟩ := mem_cleared_iff.mp hc
    exact Card.isOpen_close c₀

theorem Consistent.cleared (h : b.Consistent) : b.cleared.Consistent where
  keys_nodup := (keys_cleared b).symm ▸ h.keys_nodup
  lamps := by
    intro c hc hlamp
    obtain ⟨c₀, hc₀, rfl⟩ := mem_cleared_iff.mp hc
    exact ⟨Card.isOpen_close c₀, (h.lamps c₀ hc₀ hlamp).2⟩
  word := h.word
  waiting := by
    intro c hc ticket hstate
    have hclosed := h.idle_cleared.closed c hc
    rw [Card.isOpen_of_opening hstate] at hclosed
    contradiction
  layout := Or.inl h.idle_cleared

theorem mem_cleared_of_isOpen_eq_false {card : Card} (hmem : card ∈ b.cards)
    (hopen : card.isOpen = false) : card ∈ b.cleared.cards :=
  mem_cleared_iff.mpr ⟨card, hmem, Card.close_of_isOpen_eq_false hopen⟩

theorem Idle.shows_opened (h : b.Idle) {card : Card} (hmem : card ∈ b.cards) {slot : Nat}
    (hslot : slot ≤ b.keys.length) :
    (b.opened card slot).Shows (card.beginOpen b.nextTicket) where
  mem := mem_replaceCard_iff.mpr (Or.inl ⟨rfl, by simpa using key_mem_keys hmem⟩)
  isOpen := Card.isOpen_beginOpen ..
  others := by
    show ∀ c ∈ (b.replaceCard (card.beginOpen b.nextTicket)).cards, _
    apply forall_mem_replaceCard
    · exact fun hne => absurd rfl hne
    · exact fun c hc _ _ => h.closed c hc
  panel := rfl
  grid := ⟨slot, by rwa [keys_opened], by rw [keys_opened]; rfl⟩

theorem Consistent.opened (h : b.Consistent) (hidle : b.Idle) {card : Card} (hmem : card ∈ b.cards)
    (hlamp : card.isLamp = false) {slot : Nat} (hslot : slot ≤ b.keys.length) :
    (b.opened card slot).Consistent where
  keys_nodup := (keys_opened b card slot).symm ▸ h.keys_nodup
  lamps := by
    show ∀ c ∈ (b.replaceCard (card.beginOpen b.nextTicket)).cards, _
    apply forall_mem_replaceCard
    · intro hlamp'
      rw [Card.isLamp_beginOpen, hlamp] at hlamp'
      cases hlamp'
    · exact fun c hc _ => h.lamps c hc
  word := ticketAfter_lt b.nextTicket
  waiting := by
    show ∀ c ∈ (b.replaceCard (card.beginOpen b.nextTicket)).cards, ∀ ticket,
      c.state = .opening ticket → c.history = none ∧ ticket < Decimal.wordSize ∧
        ticketAfter ticket = ticketAfter b.nextTicket
    apply forall_mem_replaceCard
    · -- only without a history does the card wait, and it waits with the ticket just spent
      intro ticket hstate
      rw [Card.beginOpen] at hstate ⊢
      cases hhist : card.history with
      | some points => simp [hhist] at hstate
      | none =>
        have heq : b.nextTicket = ticket := by simpa [hhist] using hstate
        exact ⟨rfl, heq ▸ h.word, heq ▸ rfl⟩
    · -- no other card waits, since all are closed
      intro c hc _ ticket hstate
      have hclosed := hidle.closed c hc
      rw [Card.isOpen_of_opening hstate] at hclosed
      cases hclosed
  layout := Or.inr ⟨_, hidle.shows_opened hmem hslot⟩

theorem Shows.settled {card : Card} (h : b.Shows card)
    (answer : Except LookupError (List HistoryPoint)) :
    (b.settled card answer).Shows (card.settle answer) where
  mem := mem_replaceCard_iff.mpr (Or.inl ⟨rfl, by simpa using key_mem_keys h.mem⟩)
  isOpen := Card.isOpen_settle ..
  others := by
    show ∀ c ∈ (b.replaceCard (card.settle answer)).cards, _
    apply forall_mem_replaceCard
    · exact fun hne => absurd rfl hne
    · intro c hc hne _
      rw [Card.key_settle] at hne
      exact h.others c hc hne
  panel := rfl
  grid := by
    rw [keys_settled]
    exact h.grid

theorem Consistent.settled (h : b.Consistent) {card : Card} (hshows : b.Shows card)
    (answer : Except LookupError (List HistoryPoint)) : (b.settled card answer).Consistent where
  keys_nodup := (keys_settled b card answer).symm ▸ h.keys_nodup
  lamps := by
    show ∀ c ∈ (b.replaceCard (card.settle answer)).cards, _
    apply forall_mem_replaceCard
    · -- a lamp is never shown
      intro hlamp
      rw [Card.isLamp_settle] at hlamp
      exact absurd hshows.isOpen (by rw [(h.lamps card hshows.mem hlamp).1]; simp)
    · exact fun c hc _ => h.lamps c hc
  word := h.word
  waiting := by
    show ∀ c ∈ (b.replaceCard (card.settle answer)).cards, _
    apply forall_mem_replaceCard
    · -- with or without points, the card waits no more
      intro ticket hstate
      cases answer <;> cases hstate
    · exact fun c hc _ => h.waiting c hc
  layout := Or.inr ⟨_, hshows.settled answer⟩

theorem ToggleStep.consistent {key : CardKey} {metrics : Metrics} {outcome : ToggleOutcome}
    {b' : Board} (step : b.ToggleStep key metrics outcome b') (h : b.Consistent) :
    b'.Consistent := by
  cases step with
  | unknown _ => exact h
  | switched hmem _ hlamp => exact h.switch hmem (Card.isLamp_of_lamp_eq_some hlamp)
  | closed _ _ _ _ => exact h.cleared
  | opened hmem hkey hlamp hopen =>
    refine h.cleared.opened h.idle_cleared (mem_cleared_of_isOpen_eq_false hmem hopen) hlamp ?_
    rw [keys_cleared]
    exact Grid.slotIn_le (hkey ▸ key_mem_keys hmem) metrics

theorem DeliverStep.consistent {request : HistoryRequest}
    {answer : Except LookupError (List HistoryPoint)} {delivery : Delivery} {b' : Board}
    (step : b.DeliverStep request answer delivery b') (h : b.Consistent) : b'.Consistent := by
  cases step with
  | stale _ => exact h
  | taken hshows _ _ => exact h.settled hshows answer

theorem Consistent.toggle (h : b.Consistent) (key : CardKey) (metrics : Metrics) :
    (b.toggle key metrics).2.Consistent :=
  (toggle_step h key metrics).consistent h

theorem Consistent.deliver (h : b.Consistent) (request : HistoryRequest)
    (answer : Except LookupError (List HistoryPoint)) : (b.deliver request answer).2.Consistent :=
  (deliver_step h request answer).consistent h

/-- A click leaves of every card what only a survey can change. -/
theorem ToggleStep.blanks {key : CardKey} {metrics : Metrics} {outcome : ToggleOutcome} {b' : Board}
    (step : b.ToggleStep key metrics outcome b') (h : b.Consistent) : b'.blanks = b.blanks := by
  cases step with
  | unknown _ => rfl
  | switched hmem _ _ => exact blanks_replaceCard h.keys_nodup hmem (Card.blank_switch _)
  | closed _ _ _ _ => exact blanks_cleared b
  | opened hmem _ _ hopen =>
    rw [← blanks_cleared b]
    exact blanks_replaceCard h.cleared.keys_nodup (mem_cleared_of_isOpen_eq_false hmem hopen)
      (Card.blank_beginOpen b.nextTicket _)

theorem DeliverStep.blanks {request : HistoryRequest}
    {answer : Except LookupError (List HistoryPoint)} {delivery : Delivery} {b' : Board}
    (step : b.DeliverStep request answer delivery b') (h : b.Consistent) : b'.blanks = b.blanks := by
  cases step with
  | stale _ => rfl
  | taken hshows _ _ =>
    exact blanks_replaceCard h.keys_nodup hshows.mem (Card.blank_settle answer _)

/-- What the survey found of the devices is left as it is. -/
theorem ToggleStep.devices {key : CardKey} {metrics : Metrics} {outcome : ToggleOutcome}
    {b' : Board} (step : b.ToggleStep key metrics outcome b') : b'.devices = b.devices := by
  cases step <;> rfl

theorem DeliverStep.devices {request : HistoryRequest}
    {answer : Except LookupError (List HistoryPoint)} {delivery : Delivery} {b' : Board}
    (step : b.DeliverStep request answer delivery b') : b'.devices = b.devices := by
  cases step <;> rfl

end Board

end SensorBoard
