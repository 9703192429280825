import Mathlib.Data.List.Perm.Subperm
import SensorBoard.Proofs.Board.Request

/-!
# The panel and the cards

The cards, the grid, the panel and the counter of tickets are changed piece by piece, by clicks and
by answers that may be late or made up. All the same they always agree (`run_coherent`): one card at
most is open, there is a panel exactly then, and it is the panel of that card with the chart of that
card. A card that waits has the ticket that was spent last, which is smaller than the next one unless
the words were all spent.
-/

namespace SensorBoard.Board

/-- What is shown agrees with the cards. -/
structure Coherent (b : Board) : Prop where
  /-- At most one card is not closed. -/
  open_le_one : (b.cards.filter Card.isOpen).length ≤ 1
  /-- The grid holds the panel at most once. -/
  detail_le_one : b.grid.detailCount ≤ 1
  /-- There is a panel exactly when a card is not closed. -/
  panel_iff_open : b.panel.isSome = true ↔ ∃ c ∈ b.cards, c.state ≠ .closed
  /-- There is a panel exactly when the grid has a slot for it. -/
  panel_iff_detail : b.panel.isSome = true ↔ b.grid.detailSlot?.isSome = true
  /-- The panel is visible, and its owner is the card that is not closed. -/
  owner : ∀ p, b.panel = some p →
    p.visible = true ∧ ∀ c ∈ b.cards, c.state ≠ .closed → p.owner = c.key
  /-- The chart of the panel is that of its owner, which has none while it waits for it. -/
  chart : ∀ p, b.panel = some p → ∃ c, b.card? p.owner = some c ∧ c.state ≠ .closed ∧
    p.chart = c.chart? ∧ ∀ ticket, c.state = .opening ticket → p.chart = none
  /-- A card that waits has no history, and its ticket is the one in front of the next. -/
  waiting : ∀ c ∈ b.cards, ∀ ticket, c.state = .opening ticket →
    c.history = none ∧ b.nextTicket = (ticket + 1) % 2 ^ 64
  /-- A lamp is closed and has no history. -/
  lamps : ∀ c ∈ b.cards, c.isLamp = true → c.state = .closed ∧ c.history = none
  /-- The cards of the grid are the cards in their order. -/
  flow : b.grid.keys = b.cards.map Card.key

variable {b : Board}

theorem isOpen_iff {c : Card} : c.isOpen = true ↔ c.state ≠ .closed := by
  rw [Card.isOpen, bne_iff_ne]

theorem Shows.eq_of_isOpen {card : Card} (h : b.Shows card) (hkeys : b.keys.Nodup) {c : Card}
    (hc : c ∈ b.cards) (hopen : c.isOpen = true) : c = card := by
  refine eq_of_key_eq hkeys hc h.mem ?_
  by_contra hne
  exact absurd hopen (by simp [h.others c hc hne])

theorem Shows.length_open_le {card : Card} (h : b.Shows card) (hkeys : b.keys.Nodup) :
    (b.cards.filter Card.isOpen).length ≤ 1 := by
  -- the open cards are without repeats and among one card, so there is no more than one
  have hnodup : (b.cards.filter Card.isOpen).Nodup := (List.Nodup.of_map _ hkeys).filter _
  have hsub : b.cards.filter Card.isOpen ⊆ [card] := by
    intro c hc
    obtain ⟨hmem, hopen⟩ := List.mem_filter.mp hc
    exact List.mem_singleton.mpr (h.eq_of_isOpen hkeys hmem hopen)
  exact (List.subperm_of_subset hnodup hsub).length_le

theorem Consistent.spent (h : b.Consistent) {c : Card} (hc : c ∈ b.cards) {ticket : Nat}
    (hstate : c.state = .opening ticket) :
    c.history = none ∧ b.nextTicket = (ticket + 1) % 2 ^ 64 := by
  obtain ⟨hhistory, _, hnext⟩ := h.waiting c hc ticket hstate
  exact ⟨hhistory, hnext.symm⟩

theorem Consistent.chart?_eq_none (h : b.Consistent) {c : Card} (hc : c ∈ b.cards) {ticket : Nat}
    (hstate : c.state = .opening ticket) : c.chart? = none := by
  rw [Card.chart?, (h.waiting c hc ticket hstate).1]
  rfl

theorem Idle.coherent (hidle : b.Idle) (h : b.Consistent) : b.Coherent where
  open_le_one := by
    rw [List.filter_eq_nil_iff.mpr fun c hc => by simp [hidle.closed c hc]]
    exact Nat.zero_le 1
  detail_le_one := by
    rw [hidle.grid, Grid.detailCount_ofKeys]
    exact Nat.zero_le 1
  panel_iff_open := by
    simp only [hidle.panel, Option.isSome_none, Bool.false_eq_true, false_iff]
    rintro ⟨c, hc, hstate⟩
    exact hstate (Card.isOpen_eq_false_iff.mp (hidle.closed c hc))
  panel_iff_detail := by
    rw [hidle.panel, hidle.grid, Grid.detailSlot?,
      List.idxOf?_eq_none_iff.mpr (Grid.detail_notMem_ofKeys _)]
    rfl
  owner := by
    intro p hp
    cases hidle.panel.symm.trans hp
  chart := by
    intro p hp
    cases hidle.panel.symm.trans hp
  waiting := fun c hc ticket hstate => h.spent hc hstate
  lamps := fun c hc hlamp => (h.lamps c hc hlamp).imp_left Card.isOpen_eq_false_iff.mp
  flow := h.keys_grid

theorem Shows.coherent {card : Card} (hshows : b.Shows card) (h : b.Consistent) : b.Coherent where
  open_le_one := hshows.length_open_le h.keys_nodup
  detail_le_one := by
    obtain ⟨slot, hslot, hgrid⟩ := hshows.grid
    have hsize : slot ≤ (Grid.ofKeys b.keys).size := by rwa [Grid.size_ofKeys]
    have hcount := Grid.detailCount_insertDetail hsize
    rw [Grid.detailCount_ofKeys] at hcount
    rw [hgrid]
    exact Nat.le_of_eq hcount
  panel_iff_open := by
    simp only [hshows.panel, Option.isSome_some, true_iff]
    exact ⟨card, hshows.mem, isOpen_iff.mp hshows.isOpen⟩
  panel_iff_detail := by
    obtain ⟨slot, hslot, hgrid⟩ := hshows.grid
    rw [hshows.panel, hgrid, Grid.detailSlot?_insertDetail hslot]
    rfl
  owner := by
    intro p hp
    obtain rfl := Option.some.inj (hshows.panel.symm.trans hp)
    refine ⟨rfl, fun c hc hstate => ?_⟩
    rw [hshows.eq_of_isOpen h.keys_nodup hc (isOpen_iff.mpr hstate)]
    rfl
  chart := by
    intro p hp
    obtain rfl := Option.some.inj (hshows.panel.symm.trans hp)
    refine ⟨card, card?_of_mem h.keys_nodup hshows.mem, isOpen_iff.mp hshows.isOpen, rfl, ?_⟩
    intro ticket hstate
    exact h.chart?_eq_none hshows.mem hstate
  waiting := fun c hc ticket hstate => h.spent hc hstate
  lamps := fun c hc hlamp => (h.lamps c hc hlamp).imp_left Card.isOpen_eq_false_iff.mp
  flow := h.keys_grid

theorem Consistent.coherent (h : b.Consistent) : b.Coherent := by
  obtain hidle | ⟨card, hshows⟩ := h.layout
  · exact hidle.coherent h
  · exact hshows.coherent h

/-- With fewer openings than there are words, the tickets of a fresh board are not spent anew. -/
theorem Consistent.ticket_lt_run (h : b.Consistent) (hstart : b.nextTicket = 1)
    {actions : List Action} (hfew : b.openings actions + 1 < 2 ^ 64) {c : Card}
    (hc : c ∈ (b.run actions).cards) {ticket : Nat} (hstate : c.state = .opening ticket) :
    ticket < (b.run actions).nextTicket := by
  obtain ⟨_, hword, hnext⟩ := (h.run actions).waiting c hc ticket hstate
  have hcount := h.nextTicket_run actions
  rw [ticketAfter] at hnext
  unfold Decimal.wordSize at *
  omega

/-- After an answer was taken, the panel of the card shows the points that came, and nothing if none
came. -/
theorem DeliverStep.panel {request : HistoryRequest}
    {answer : Except LookupError (List HistoryPoint)} {delivery : Delivery} {b' : Board}
    (step : b.DeliverStep request answer delivery b') (h : b.Consistent) :
    (∀ fault, delivery = .failed fault → b'.panel = some ⟨request.key, true, none⟩) ∧
    (∀ chart, delivery = .rendered chart →
      answer = .ok chart.points ∧ b'.panel = some ⟨request.key, true, some chart⟩) := by
  cases step with
  | stale _ => exact ⟨fun _ hd => (by cases hd), fun _ hd => (by cases hd)⟩
  | @taken card hshows hkey hstate =>
    cases answer with
    | ok points =>
      refine ⟨fun _ hd => (by cases hd), fun chart hd => ?_⟩
      obtain rfl := Delivery.rendered.inj hd
      exact ⟨rfl, hkey ▸ rfl⟩
    | error cause =>
      -- the card waited, so it had no history, and none has come
      refine ⟨fun fault _ => ?_, fun _ hd => (by cases hd)⟩
      have hchart := h.chart?_eq_none hshows.mem hstate
      show some (⟨card.key, true, card.chart?⟩ : Panel) = some ⟨request.key, true, none⟩
      rw [hchart, hkey]

/-! ## The main statement -/

/-- On the board of a successful survey the panel, the grid and the cards agree, whatever was clicked
and whatever answers came, in any order; and each answer that is taken is what the panel shows
then. As long as the openings leave a word for the next ticket, the ticket that a card waits with is
smaller than it. -/
theorem run_coherent {rules : RuleTable} {gateway : Gateway} {d : Dashboard}
    (hsurvey : (Survey.run rules gateway).result = .ok d) (actions : List Action) :
    let b := (ofDashboard d).run actions
    b.Coherent ∧
    ((ofDashboard d).openings actions + 1 < 2 ^ 64 →
      ∀ c ∈ b.cards, ∀ ticket, c.state = .opening ticket → ticket < b.nextTicket) ∧
    ∀ request answer,
      (∀ fault, (b.deliver request answer).1 = .failed fault →
        (b.deliver request answer).2.panel = some ⟨request.key, true, none⟩) ∧
      (∀ chart, (b.deliver request answer).1 = .rendered chart →
        answer = .ok chart.points ∧
          (b.deliver request answer).2.panel = some ⟨request.key, true, some chart⟩) := by
  have hstart := consistent_ofDashboard (Survey.fresh_of_run hsurvey)
  have h := hstart.run actions
  refine ⟨h.coherent, fun hfew c hc ticket hstate => ?_, fun request answer => ?_⟩
  · exact hstart.ticket_lt_run rfl hfew hc hstate
  · exact (deliver_step h request answer).panel h

/-- On the porch the thermometer is opened, and an answer with a made-up ticket comes: the
thermometer still waits. Then the answer comes that is awaited, which is an error. -/
theorem run_coherent_porch :
    let start := ofDashboard Survey.porchDashboard
    let actions := [.toggle ⟨"porch", ".3303.0"⟩ ⟨1200.0, 300.0⟩,
      .deliver ⟨⟨"porch", ".3303.0"⟩, "", 7⟩ (.ok [])]
    let answered := actions ++ [.deliver ⟨⟨"porch", ".3303.0"⟩, "", 1⟩ (.error (.undecodable ""))]
    (Survey.run .builtin Survey.porch).result = .ok Survey.porchDashboard ∧
      start.openings actions + 1 < 2 ^ 64 ∧
      (∃ c ∈ (start.run actions).cards, c.state = .opening 1 ∧
        1 < (start.run actions).nextTicket) ∧
      (start.run answered).Coherent ∧
      (start.run answered).panel = some ⟨⟨"porch", ".3303.0"⟩, true, none⟩ := by
  intro start actions answered
  have hfew : start.openings actions + 1 < 2 ^ 64 := by decide +kernel
  have hwaits : ∃ c ∈ (start.run actions).cards, c.state = .opening 1 := by decide +kernel
  obtain ⟨c, hc, hstate⟩ := hwaits
  obtain ⟨_, hticket, _⟩ := run_coherent Survey.run_porch actions
  exact ⟨Survey.run_porch, hfew, ⟨c, hc, hstate, hticket hfew c hc 1 hstate⟩,
    (run_coherent Survey.run_porch answered).1, rfl⟩

end SensorBoard.Board
