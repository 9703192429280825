import SensorBoard.Proofs.Json.Told
import SensorBoard.Proofs.Service.Refusal

/-!
# Undisturbed clicks

A click that is served with nothing else in between is told what it has done to its card
(`click_served`): a lamp that it is switched, an open card that it is closed, and a closed card that
it is open, where the panel is, and what the panel shows. The history is fetched only if the card
has none, and if that fails the banner is told in place of the chart.
-/

namespace SensorBoard

/-! ## What a click is told -/

namespace Card

/-- What the panel shows of the history of a card. -/
def drawn (c : Card) (points : List HistoryPoint) : Chart :=
  ⟨c.sensor.quantity.label, c.units, points⟩

variable {c : Card} {points : List HistoryPoint}

theorem chart?_of_history (h : c.history = some points) : c.chart? = some (c.drawn points) := by
  rw [chart?, h]
  rfl

theorem chart?_of_no_history (h : c.history = none) : c.chart? = none := by
  rw [chart?, h]
  rfl

theorem opens_of_history (h : c.history = some points) (placement : Placement) (slot ticket : Nat) :
    c.opens placement slot ticket = .opened placement slot := by
  rw [opens, h]
  rfl

theorem opens_of_no_history (h : c.history = none) (placement : Placement) (slot ticket : Nat) :
    c.opens placement slot ticket =
      .opening placement slot ⟨c.key, c.sensor.resource, ticket⟩ := by
  rw [opens, h]
  rfl

theorem state_beginOpen_of_history (h : c.history = some points) (ticket : Nat) :
    (c.beginOpen ticket).state = .opened := by
  rw [beginOpen, h]
  rfl

theorem state_beginOpen_of_no_history (h : c.history = none) (ticket : Nat) :
    (c.beginOpen ticket).state = .opening ticket := by
  rw [beginOpen, h]
  rfl

end Card

namespace Board

/-- A board has come from another by opening a card that was measured by the widths: the card is
open, and the panel is its panel, behind its row, with a chart or without one. -/
structure OpenedFrom (b : Board) (c : Card) (metrics : Metrics) (placement : Placement) (slot : Nat)
    (chart : Option Chart) (b' : Board) : Prop where
  card : ∃ c', b'.card? c.key = some c' ∧ c'.state = .opened ∧ c'.chart? = chart
  panel : b'.panel = some ⟨c.key, true, chart⟩
  grid : b.grid.openDetail c.key metrics = (b'.grid, some (placement, slot))
  slot : b'.grid.detailSlot? = some slot
  widths : placement.metrics = metrics
  index : b'.grid.withoutDetail.position? c.key = some placement.index

/-- What a click on a card is told, as members of a JSON object, which lookups are made for it, and
the board that it leaves. -/
inductive ClickServed (gateway : Gateway) (metrics : Metrics) (b : Board) (c : Card) :
    List (String × Json) → List Lookup → Board → Prop where
  -- a lamp is told how it is now
  | switched {on : Bool} {b' : Board} (hlamp : c.lamp = some on) (hclosed : c.state = .closed)
      (hcard : b'.card? c.key = some { c with lamp := some !on }) :
      ClickServed gateway metrics b c [("state", .text "closed"), ("bulb_on", .bool !on)] [] b'
  | closed {b' : Board} (hlamp : c.lamp = none) (hopen : c.state ≠ .closed)
      (hcard : b'.card? c.key = some { c with state := .closed }) (hidle : b'.Idle) :
      ClickServed gateway metrics b c [("state", .text "closed")] [] b'
  -- the history that is kept is drawn at once
  | kept {points : List HistoryPoint} {placement : Placement} {slot : Nat} {placed drawn : Json}
      {b' : Board} (hlamp : c.lamp = none) (hclosed : c.state = .closed)
      (hkept : c.history = some points)
      (hopened : b.OpenedFrom c metrics placement slot (some (c.drawn points)) b')
      (hplaced : placed.TellsPlacement placement) (hdrawn : drawn.TellsChart (c.drawn points)) :
      ClickServed gateway metrics b c
        [("state", .text "open"), ("placement", placed), ("detail_slot", .number (.int slot)),
          ("chart", drawn)] [] b'
  | fetched {points : List HistoryPoint} {placement : Placement} {slot : Nat} {placed drawn : Json}
      {b' : Board} (hlamp : c.lamp = none) (hclosed : c.state = .closed) (hnone : c.history = none)
      (hanswer : gateway.history c.device c.sensor.resource = .ok points)
      (hopened : b.OpenedFrom c metrics placement slot (some (c.drawn points)) b')
      (hplaced : placed.TellsPlacement placement) (hdrawn : drawn.TellsChart (c.drawn points)) :
      ClickServed gateway metrics b c
        [("state", .text "open"), ("placement", placed), ("detail_slot", .number (.int slot)),
          ("chart", drawn)] [.history c.device c.sensor.resource] b'
  -- the card is open all the same, with an empty panel
  | failed {cause : LookupError} {placement : Placement} {slot : Nat} {placed : Json} {b' : Board}
      (hlamp : c.lamp = none) (hclosed : c.state = .closed) (hnone : c.history = none)
      (hanswer : gateway.history c.device c.sensor.resource = .error cause)
      (hopened : b.OpenedFrom c metrics placement slot none b')
      (hplaced : placed.TellsPlacement placement) :
      ClickServed gateway metrics b c
        [("state", .text "open"), ("placement", placed), ("detail_slot", .number (.int slot)),
          ("error", .text "Error when loading sensor statistics!")]
        [.history c.device c.sensor.resource] b'

/-! ## Boards that show the card -/

variable {b b' : Board} {c c' : Card} {metrics : Metrics}

theorem Shows.openedFrom (hshows : b'.Shows c') (h : b.Consistent) (h' : b'.Consistent)
    (hmem : c ∈ b.cards) (hkey : c'.key = c.key) (hstate : c'.state = .opened)
    (hgrid : b'.grid = (Grid.ofKeys b.keys).insertDetail (Grid.slotIn b.keys c.key metrics)) :
    b.OpenedFrom c metrics (Grid.placementIn b.keys c.key metrics)
      (Grid.slotIn b.keys c.key metrics) c'.chart? b' where
  card := ⟨c', hkey ▸ card?_of_mem h'.keys_nodup hshows.mem, hstate, rfl⟩
  panel := by
    rw [hshows.panel, Panel.ofCard, hkey]
  grid := by
    have hopen := Grid.openDetail_of_mem (h.keys_grid.symm ▸ key_mem_keys hmem) metrics
    rw [h.keys_grid] at hopen
    rw [hopen, hgrid]
  slot := by
    rw [hgrid, Grid.detailSlot?_insertDetail (Grid.slotIn_le (key_mem_keys hmem) metrics)]
  widths := rfl
  index := by
    rw [Grid.withoutDetail_eq_ofKeys, hgrid, Grid.keys_insertDetail, Grid.keys_ofKeys,
      Grid.position?_ofKeys (key_mem_keys hmem)]
    rfl

/-- The panel of the card that is shown can be asked for by the key of the card. -/
theorem Shows.panelOf?_eq (hshows : b.Shows c) : b.panelOf? c.key = some (.ofCard c) := by
  rw [panelOf?, hshows.panel]
  simp [Panel.ofCard]

/-- A click on a closed card leaves a board that shows it, with the panel behind its row. -/
theorem Consistent.toggle_closed (h : b.Consistent) (hmem : c ∈ b.cards) (hlamp : c.lamp = none)
    (hopen : c.isOpen = false) (metrics : Metrics) :
    ∃ b₁, b.toggle c.key metrics =
        (c.opens (Grid.placementIn b.keys c.key metrics) (Grid.slotIn b.keys c.key metrics)
          b.nextTicket, b₁) ∧
      b₁.Consistent ∧ b₁.Shows (c.beginOpen b.nextTicket) ∧
      b₁.grid = (Grid.ofKeys b.keys).insertDetail (Grid.slotIn b.keys c.key metrics) := by
  have htoggle := toggle_of_closed h hmem hlamp hopen metrics
  have hafter := h.toggle c.key metrics
  rw [htoggle] at hafter
  have hslot := Grid.slotIn_le (key_mem_keys hmem) metrics
  have hshows : (b.cleared.opened c (Grid.slotIn b.keys c.key metrics)).Shows
      (c.beginOpen b.nextTicket) := by
    refine h.idle_cleared.shows_opened (mem_cleared_of_isOpen_eq_false hmem hopen) ?_
    rwa [keys_cleared]
  exact ⟨_, htoggle, hafter, hshows, by rw [Board.opened, keys_cleared]⟩

end Board

namespace Service

open Board (ClickServed OpenedFrom)

variable {s : Service} {b : Board} {c : Card} {metrics : Metrics} {r : Request}

/-! ## Reports -/

/-- Once the clicked card is shown, the report tells of it. -/
theorem report_of_shows {toggle : PlacedToggle} (hboard : s.board = some b) (h : b.Consistent)
    (hshows : b.Shows c) (hkey : toggle.key = c.key) (hawaiting : toggle.Awaiting) :
    s.report toggle = { toggle.report with
      state := some c.state, detailSlot := b.grid.detailSlot?, chart := c.chart? } := by
  rw [report_of_board hboard hawaiting, hkey, Board.card?_of_mem h.keys_nodup hshows.mem,
    hshows.panelOf?_eq]
  rfl

/-- A click that has placed no panel is told the state of its card. -/
theorem report_of_no_slot {toggle : PlacedToggle} (hboard : s.board = some b)
    (hcard : b.card? toggle.key = some c) (hslot : toggle.report.detailSlot = none) :
    s.report toggle = { toggle.report with state := some c.state } := by
  simp only [report, hboard, hslot, hcard, Option.isSome_none, Bool.false_eq_true, if_false,
    Option.map_some]

/-- When the answer that it waits for comes, the card that is shown takes it. -/
theorem deliver_of_shows (request : HistoryRequest) (hboard : s.board = some b) (h : b.Consistent)
    (hshows : b.Shows c) (hkey : c.key = request.key) (hstate : c.state = .opening request.ticket)
    (answer : Except LookupError (List HistoryPoint)) (toggle : PlacedToggle) :
    s.deliver request answer toggle =
      ({ toggle with report := noted toggle.report (c.takes request answer) },
        { s with board := some (b.settled c answer) }) := by
  rw [deliver, hboard]
  simp only [Board.deliver_of_waiting h hshows hkey hstate]

/-! ## The clicks, one by one -/

section Served

variable (rules : RuleTable) (gateway : Gateway) (now : Nat) (hboard : s.board = some b)
  (h : b.Consistent) (hclick : Clicks r c.key metrics) (hmem : c ∈ b.cards)

/-- A click in order is served with what it tells, the lookups it makes and the board it leaves. -/
def ServedBy (s : Service) (rules : RuleTable) (gateway : Gateway) (now : Nat) (r : Request)
    (P : List (String × Json) → List Lookup → Board → Prop) : Prop :=
  ∃ told lookups b', s.handle rules gateway now r =
    (.ofBody 200 (.json (.object told)), lookups, { s with board := some b' }) ∧ P told lookups b'

include hboard hclick

/-- What a click does to the board is what it does to the service. -/
theorem receive_of_toggle {outcome : ToggleOutcome} {b' : Board} {toggle : PlacedToggle}
    (htoggle : b.toggle c.key metrics = (outcome, b'))
    (hplaced : placedOf? c.key outcome = some toggle) :
    (s.receive r).1 = .placed toggle ∧ (s.receive r).2 = { s with board := some b' } := by
  obtain ⟨hservice, hreceived⟩ := receive_of_clicks hclick hboard
  rw [htoggle] at hservice hreceived
  simp only [hplaced] at hreceived
  exact ⟨hreceived, hservice⟩

include h hmem

theorem served_of_lamp {on : Bool} (hlamp : c.lamp = some on) :
    s.ServedBy rules gateway now r (b.ClickServed gateway metrics c) := by
  obtain ⟨hreceived, hservice⟩ :=
    receive_of_toggle hboard hclick (Board.toggle_of_lamp h hmem hlamp metrics) rfl
  have hislamp := Card.isLamp_of_lamp_eq_some hlamp
  have hclosed : c.state = .closed := Card.isOpen_eq_false_iff.mp (h.lamps c hmem hislamp).1
  have hcard : (b.replaceCard c.switch).card? c.key = some { c with lamp := some !on } := by
    have hswitch : c.switch = { c with lamp := some !on } := by
      rw [Card.switch, hlamp]
      rfl
    have hkey : c.switch.key ∈ b.keys := Board.key_mem_keys (c := c) hmem
    have hfound := (Board.card?_replaceCard h.keys_nodup hkey).1
    rw [← hswitch]
    exact hfound
  refine ⟨_, _, _, ?_, .switched hlamp hclosed hcard⟩
  rw [handle_of_placed rules gateway now hreceived rfl, hservice, answerToggle,
    report_of_no_slot rfl hcard rfl]
  simp only [hclosed]
  rfl

theorem served_of_open (hlamp : c.lamp = none) (hopen : c.isOpen = true) :
    s.ServedBy rules gateway now r (b.ClickServed gateway metrics c) := by
  obtain ⟨hreceived, hservice⟩ :=
    receive_of_toggle hboard hclick (Board.toggle_of_open h hmem hlamp hopen metrics) rfl
  have hcleared : c.close ∈ b.cleared.cards := Board.mem_cleared_iff.mpr ⟨c, hmem, rfl⟩
  have hcard : b.cleared.card? c.key = some c.close :=
    Board.card?_of_mem (c := c.close) h.cleared.keys_nodup hcleared
  refine ⟨_, _, _, ?_, .closed hlamp (Board.isOpen_iff.mp hopen) hcard h.idle_cleared⟩
  rw [handle_of_placed rules gateway now hreceived rfl, hservice, answerToggle,
    report_of_no_slot rfl hcard rfl]
  rfl

theorem served_of_history (hlamp : c.lamp = none) (hopen : c.isOpen = false)
    {points : List HistoryPoint} (hkept : c.history = some points) :
    s.ServedBy rules gateway now r (b.ClickServed gateway metrics c) := by
  obtain ⟨b₁, htoggle, hafter, hshows, hgrid⟩ := h.toggle_closed hmem hlamp hopen metrics
  rw [Card.opens_of_history hkept] at htoggle
  obtain ⟨hreceived, hservice⟩ := receive_of_toggle hboard hclick htoggle rfl
  have hstate := Card.state_beginOpen_of_history hkept b.nextTicket
  have hchart : (c.beginOpen b.nextTicket).chart? = _ := Card.chart?_of_history hkept
  have hopened := hshows.openedFrom h hafter hmem rfl hstate hgrid
  rw [hchart] at hopened
  refine ⟨_, _, _, ?_, .kept hlamp (Card.isOpen_eq_false_iff.mp hopen) hkept hopened
    (Json.tellsPlacement_toJson _) (Json.tellsChart_toJson _)⟩
  rw [handle_of_placed rules gateway now hreceived rfl, hservice, answerToggle,
    report_of_shows rfl hafter hshows rfl ⟨rfl, rfl, rfl⟩, hopened.slot, hstate, hchart]
  rfl

theorem served_of_fetch (hlamp : c.lamp = none) (hopen : c.isOpen = false)
    (hnone : c.history = none) :
    s.ServedBy rules gateway now r (b.ClickServed gateway metrics c) := by
  obtain ⟨b₁, htoggle, hafter, hshows, hgrid⟩ := h.toggle_closed hmem hlamp hopen metrics
  rw [Card.opens_of_no_history hnone] at htoggle
  obtain ⟨hreceived, hservice⟩ := receive_of_toggle hboard hclick htoggle rfl
  have hclosed := Card.isOpen_eq_false_iff.mp hopen
  -- nothing comes in between, so the card still waits when the answer comes
  have hwaits := Card.state_beginOpen_of_no_history hnone b.nextTicket
  have hboard₁ : (s.receive r).2.board = some b₁ := by rw [hservice]
  have hdeliver := deliver_of_shows ⟨c.key, c.sensor.resource, b.nextTicket⟩ hboard₁ hafter hshows
    rfl hwaits (gateway.history c.device c.sensor.resource)
  have hhandle := handle_of_fetched rules gateway now hreceived rfl (hdeliver _)
  cases hanswer : gateway.history c.device c.sensor.resource with
  | ok points =>
    have hsettled := hafter.settled hshows (.ok points)
    have hopened := (hshows.settled (.ok points)).openedFrom h hsettled hmem rfl rfl hgrid
    refine ⟨_, _, _, ?_, .fetched hlamp hclosed hnone hanswer hopened
      (Json.tellsPlacement_toJson _) (Json.tellsChart_toJson _)⟩
    rw [hhandle, hanswer, hservice, answerToggle,
      report_of_shows rfl hsettled (hshows.settled _) rfl ⟨rfl, rfl, rfl⟩, hopened.slot]
    rfl
  | error cause =>
    have hsettled := hafter.settled hshows (.error cause)
    have hopened := (hshows.settled (.error cause)).openedFrom h hsettled hmem rfl rfl hgrid
    -- without points the card has nothing to draw
    have hchart : ((c.beginOpen b.nextTicket).settle (.error cause)).chart? = none :=
      Card.chart?_of_no_history hnone
    rw [hchart] at hopened
    refine ⟨_, _, _, ?_, .failed hlamp hclosed hnone hanswer hopened
      (Json.tellsPlacement_toJson _)⟩
    rw [hhandle, hanswer, hservice, answerToggle,
      report_of_shows rfl hsettled (hshows.settled _) rfl ⟨rfl, rfl, rfl⟩, hchart, hopened.slot]
    rfl

theorem handle_click : s.ServedBy rules gateway now r (b.ClickServed gateway metrics c) := by
  cases hlamp : c.lamp with
  | some on => exact served_of_lamp rules gateway now hboard h hclick hmem hlamp
  | none =>
    cases hopen : c.isOpen with
    | true => exact served_of_open rules gateway now hboard h hclick hmem hlamp hopen
    | false =>
      cases hhistory : c.history with
      | some points =>
        exact served_of_history rules gateway now hboard h hclick hmem hlamp hopen hhistory
      | none => exact served_of_fetch rules gateway now hboard h hclick hmem hlamp hopen hhistory

end Served

/-! ## The main statement -/

/-- At any time of a run, a click in order on a card of the board that is served with nothing in
between is answered with the status 200, and the answer, the lookups and the board that it leaves
are those of the card: a lamp is switched, an open card closed, and a closed card opened, with the
history that it keeps, with the one that is fetched, or with the banner if that fails. That the card
is opening is never told. -/
theorem click_served (steps : List Step) (rules : RuleTable) (gateway : Gateway) (now : Nat)
    (r : Request) :
    let s := start.run steps
    ∀ board card metrics, s.board = some board → card ∈ board.cards → Clicks r card.key metrics →
      ∃ told lookups b', s.handle rules gateway now r =
          (.ofBody 200 (.json (.object told)), lookups, { s with board := some b' }) ∧
        board.ClickServed gateway metrics card told lookups b' ∧
        (Json.object told).member? "state" ≠ some (.text "opening") := by
  intro s board card metrics hboard hmem hclick
  have hconsistent : board.Consistent := consistent_run_start steps board hboard
  obtain ⟨told, lookups, b', hhandle, hserved⟩ :=
    handle_click rules gateway now hboard hconsistent hclick hmem
  refine ⟨told, lookups, b', hhandle, hserved, ?_⟩
  cases hserved <;> simp [Json.member?, Keyed.find?]

/-- The porch with two measurements of every sensor. -/
def porchMeasured : Gateway :=
  { Survey.porch with history := fun _ _ => .ok [⟨1000000, 20.5⟩, ⟨2000000, 21.0⟩] }

/-- The thermometer of the porch was opened without its history and closed again. The next click
fetches the history once more, places the panel and draws the measurements. -/
theorem click_served_porch :
    let steps := [.reload 1 .builtin Survey.porch, .receive (porchClick ".3303.0"),
      .deliver ⟨porchRequest.key, .blank, some porchRequest⟩ porchRequest
        (.error (.undecodable "")), .receive (porchClick ".3303.0")]
    let s := start.run steps
    ∃ board card metrics b', s.board = some board ∧ card ∈ board.cards ∧
      Clicks (porchClick ".3303.0") card.key metrics ∧
      s.handle .builtin porchMeasured 2 (porchClick ".3303.0") =
        (.ofBody 200 (.json (.object [("state", .text "open"),
          ("placement", .object [("container_width_px", .number (.float 1200.0)),
            ("card_width_px", .number (.float 300.0)), ("columns_per_row", .number (.int 4)),
            ("card_index_in_flow", .number (.int 0)),
            ("column_offset_in_row", .number (.int 0))]),
          ("detail_slot", .number (.int 3)),
          ("chart", .object [("label", .text "temperature"), ("units", .text "celsius"),
            ("series", .list [.list [.number (.int 1000000), .number (.float 20.5)],
              .list [.number (.int 2000000), .number (.float 21.0)]])])])),
          [.history "porch" ".3303.0.5700"], { s with board := some b' }) := by
  intro steps s
  have hthermometer : (s.board.bind fun board => (board.card? porchRequest.key).map fun card =>
      (card.lamp, card.isOpen, card.history.isSome, card.sensor.resource)) =
        some (none, false, false, ".3303.0.5700") := by
    decide +kernel
  have hdrawing : (s.board.bind fun board => (board.card? porchRequest.key).map fun card =>
      (card.sensor.quantity.label, card.units)) = some ("temperature", "celsius") := by
    decide +kernel
  have hplacing : (s.board.bind fun board =>
      (board.grid.openDetail porchRequest.key ⟨1200.0, 300.0⟩).2.map fun placed =>
        (placed.1.index, placed.2)) = some (0, 3) := by
    decide +kernel
  obtain ⟨board, hboard, hcard⟩ := Option.bind_eq_some_iff.mp hthermometer
  obtain ⟨card, hfound, hcard⟩ := Option.map_eq_some_iff.mp hcard
  simp only [hboard, Option.bind_some, hfound, Option.map_some] at hdrawing hplacing
  simp only [Option.some.injEq, Prod.mk.injEq] at hcard hdrawing
  obtain ⟨hlamp, hopen, hhistory, hresource⟩ := hcard
  obtain ⟨hlabel, hunits⟩ := hdrawing
  obtain ⟨hmem, hkey⟩ := Board.mem_of_card? hfound
  have hclick : Clicks (porchClick ".3303.0") card.key ⟨1200.0, 300.0⟩ :=
    hkey ▸ ⟨rfl, _, _, ofTarget?_porchClick, click_porchClick⟩
  obtain ⟨told, lookups, b', hhandle, hserved, _⟩ :=
    click_served steps .builtin porchMeasured 2 _ board card _ hboard hmem hclick
  refine ⟨board, card, _, b', hboard, hmem, hclick, ?_⟩
  have hdevice : card.device = "porch" := congrArg CardKey.device hkey
  rw [hhandle]
  cases hserved with
  | @fetched points placement slot placed drawn _ _ _ _ hanswer hopened hplaced hdrawn =>
    obtain rfl := Except.ok.inj hanswer
    rw [← hkey, hopened.grid] at hplacing
    obtain ⟨hindex, rfl⟩ := Prod.mk.inj (Option.some.inj hplacing)
    have hcolumns : Metrics.columns ⟨1200.0, 300.0⟩ = 4 := by decide +kernel
    -- all four doubles are finite, and told by their numbers
    obtain ⟨hcontainer, hcardWidth⟩ := hplaced
    obtain ⟨hseries⟩ := hdrawn
    obtain _ | ⟨⟨hfirst⟩, _ | ⟨⟨hsecond⟩, _ | _⟩⟩ := hseries
    rw [hopened.widths] at hcontainer hcardWidth
    rw [hcontainer.eq_number (by decide +kernel), hcardWidth.eq_number (by decide +kernel),
      hfirst.eq_number (by decide +kernel), hsecond.eq_number (by decide +kernel),
      hopened.widths, hcolumns, hindex, hresource, hdevice, Card.drawn, hlabel, hunits]
    rfl
  | switched hon _ _ => cases hlamp.symm.trans hon
  | closed _ hnot _ _ => exact absurd (Card.isOpen_eq_false_iff.mp hopen) hnot
  | kept _ _ hkept _ =>
    rw [hkept] at hhistory
    cases hhistory
  | failed _ _ _ hanswer _ => cases hanswer

end Service

end SensorBoard
