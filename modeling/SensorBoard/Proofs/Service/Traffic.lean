import SensorBoard.Proofs.Board.Request
import SensorBoard.Proofs.Service.Answer

/-!
# Clicks in progress

The service deals with many clicks at a time: each is placed, waits for its history if it has to,
and is answered, while other requests come and surveys replace the board. Every card that is opening
has a click in progress that was placed on this very board and will deliver what the card waits for
(`opening_card_has_click`). So once no click is in progress, no card is opening.
-/

namespace SensorBoard

/-! ## What a service awaits -/

namespace Service

variable {s s' : Service} {key : CardKey} {outcome : ToggleOutcome} {toggle : PlacedToggle}

/-- The request whose answer the board of the service takes, if there is a board. -/
def awaited? (s : Service) : Option HistoryRequest := s.board.bind Board.awaited?

theorem awaited?_eq_some_iff {request : HistoryRequest} :
    s.awaited? = some request ↔ ∃ board, s.board = some board ∧ board.awaited? = some request :=
  Option.bind_eq_some_iff

theorem request_of_placedOf? (h : placedOf? key outcome = some toggle) :
    toggle.key = key ∧ toggle.request = outcome.request? := by
  cases outcome <;> cases h <;> exact ⟨rfl, rfl⟩

theorem request?_of_placedOf?_eq_none (h : placedOf? key outcome = none) :
    outcome.request? = none := by
  cases outcome with
  | unknown => rfl
  | _ => cases h

/-- What is awaited once a request was received was awaited before, or the request was a click that
waits for it. -/
theorem ReceiveStep.awaited?_eq_some {received : Received} (step : ReceiveStep s received s')
    (h : s.Consistent) {request : HistoryRequest} (hr : s'.awaited? = some request) :
    s.awaited? = some request ∨ ∃ toggle, received = .placed toggle ∧
      toggle.key = request.key ∧ toggle.request = some request := by
  cases step with
  | unchanged _ => exact Or.inl hr
  | missed hboard hmissed =>
    have hb := h _ hboard
    rcases (Board.toggle_step hb _ _).awaited?_eq_some hb hr with hr | ⟨hr, _⟩
    · exact Or.inl (awaited?_eq_some_iff.mpr ⟨_, hboard, hr⟩)
    · rw [request?_of_placedOf?_eq_none hmissed] at hr
      cases hr
  | placed hboard hplaced =>
    have hb := h _ hboard
    rcases (Board.toggle_step hb _ _).awaited?_eq_some hb hr with hr | ⟨hr, hkey⟩
    · exact Or.inl (awaited?_eq_some_iff.mpr ⟨_, hboard, hr⟩)
    · obtain ⟨htoggle, hrequest⟩ := request_of_placedOf? hplaced
      exact Or.inr ⟨_, rfl, htoggle.trans hkey.symm, hrequest.trans hr⟩

theorem awaited?_deliver_eq_some (h : s.Consistent) {request p : HistoryRequest}
    {answer : Except LookupError (List HistoryPoint)}
    (hp : (s.deliver request answer toggle).2.awaited? = some p) :
    s.awaited? = some p ∧ ¬ Board.Alike p request := by
  rw [deliver_snd, awaited?_eq_some_iff] at hp
  obtain ⟨board', hboard', hp⟩ := hp
  obtain ⟨board, hboard, rfl⟩ := Option.map_eq_some_iff.mp hboard'
  obtain ⟨hp, hnot⟩ := Board.awaited?_deliver_eq_some (h board hboard) hp
  exact ⟨awaited?_eq_some_iff.mpr ⟨board, hboard, hp⟩, hnot⟩

theorem awaited?_install (now : Nat) (rules : RuleTable) (gateway : Gateway) :
    (s.install now (Survey.run rules gateway).result).awaited? = none := by
  cases hresult : (Survey.run rules gateway).result with
  | error fault => rfl
  | ok dashboard => exact (Board.idle_ofDashboard (Survey.fresh_of_run hresult)).awaited?

end Service

/-! ## Traffic -/

/-- A click that was placed and is not answered yet. -/
structure PendingClick where
  toggle : PlacedToggle
  /-- The number of surveys before the click, which tells its board from all others. -/
  survey : Nat
  /-- The history that the click waits for, until it is delivered. -/
  awaits : Option HistoryRequest

/-- The click will deliver the request, and it was placed after so many surveys. -/
structure PendingClick.Brings (click : PendingClick) (surveys : Nat) (request : HistoryRequest) :
    Prop where
  survey : click.survey = surveys
  key : click.toggle.key = request.key
  awaits : click.awaits = some request

/-- The service with the clicks that are in progress. -/
structure Traffic where
  service : Service
  /-- The number of surveys that have ended. -/
  surveys : Nat
  clicks : List PendingClick

namespace Traffic

/-- Nothing has happened yet. -/
def start : Traffic := ⟨.start, 0, []⟩

/-- A request comes; if it is a click that is placed, the click is in progress from then on. -/
def receive (r : Request) (t : Traffic) : Traffic where
  service := t.service.perform (.receive r)
  surveys := t.surveys
  clicks := t.clicks ++
    ((t.service.receive r).1.toggle?.map fun toggle => ⟨toggle, t.surveys, toggle.request⟩).toList

/-- A survey ends, and its result is taken over. -/
def survey (now : Nat) (rules : RuleTable) (gateway : Gateway) (t : Traffic) : Traffic where
  service := t.service.perform (.reload now rules gateway)
  surveys := t.surveys + 1
  clicks := t.clicks

/-- What can happen next. -/
inductive Next (t : Traffic) : Traffic → Prop where
  | receive (r : Request) : Next t (t.receive r)
  | survey (now : Nat) (rules : RuleTable) (gateway : Gateway) : Next t (t.survey now rules gateway)
  -- the history that a click waits for is delivered, and then the click only has to be answered
  | deliver {before after : List PendingClick} {click : PendingClick} {request : HistoryRequest}
      (answer : Except LookupError (List HistoryPoint))
      (hclicks : t.clicks = before ++ click :: after) (hawaits : click.awaits = some request) :
      Next t {
        service := t.service.perform (.deliver click.toggle request answer)
        surveys := t.surveys
        clicks := before ++ { click with
          toggle := (t.service.deliver request answer click.toggle).1
          awaits := none } :: after }
  | answer {before after : List PendingClick} {click : PendingClick}
      (hclicks : t.clicks = before ++ click :: after) (hdone : click.awaits = none) :
      Next t { t with clicks := before ++ after }

/-- What can be reached from the start. -/
inductive Reachable : Traffic → Prop where
  | start : Reachable start
  | next {t t' : Traffic} : Reachable t → Next t t' → Reachable t'

/-! ## Every wait has its click -/

/-- The board is consistent, and what it awaits is brought by a click that was placed on it. -/
structure Attended (t : Traffic) : Prop where
  consistent : t.service.Consistent
  brought : ∀ request, t.service.awaited? = some request →
    ∃ click ∈ t.clicks, click.Brings t.surveys request

theorem attended_start : start.Attended where
  consistent := Service.consistent_start
  brought := by
    intro request hr
    cases hr

/-- Taking one click out of the list leaves all others in it. -/
private theorem mem_without {before after : List PendingClick} {click other : PendingClick}
    (hmem : other ∈ before ++ click :: after) (hne : other ≠ click) : other ∈ before ++ after := by
  rcases List.mem_append.mp hmem with hmem | hmem
  · exact List.mem_append_left _ hmem
  · exact List.mem_append_right _ ((List.mem_cons.mp hmem).resolve_left hne)

theorem Attended.next {t t' : Traffic} (h : t.Attended) (step : t.Next t') : t'.Attended := by
  cases step with
  | receive r =>
    refine ⟨h.consistent.perform _, fun request hr => ?_⟩
    rcases (Service.receive_step r t.service).awaited?_eq_some h.consistent hr with
      hr | ⟨toggle, hplaced, hkey, hrequest⟩
    · obtain ⟨click, hmem, hclick⟩ := h.brought request hr
      exact ⟨click, List.mem_append_left _ hmem, hclick⟩
    · -- the click that has just been placed waits for it
      refine ⟨⟨toggle, t.surveys, toggle.request⟩, List.mem_append_right _ ?_, rfl, hkey, hrequest⟩
      rw [hplaced]
      exact List.mem_singleton.mpr rfl
  | survey now rules gateway =>
    refine ⟨h.consistent.perform _, fun request hr => ?_⟩
    -- a new board awaits nothing
    rw [survey, Service.perform, Service.finishReload_snd, Service.awaited?_install] at hr
    cases hr
  | @deliver before after click request answer hclicks hawaits =>
    refine ⟨h.consistent.perform _, fun p hp => ?_⟩
    obtain ⟨hp, hnot⟩ := Service.awaited?_deliver_eq_some h.consistent hp
    obtain ⟨other, hmem, hother⟩ := h.brought p hp
    -- what this very click has delivered cannot be awaited any more
    have hne : other ≠ click := by
      rintro rfl
      obtain rfl := Option.some.inj (hother.awaits.symm.trans hawaits)
      exact hnot ⟨rfl, rfl⟩
    have hrest := List.mem_append.mp (mem_without (hclicks ▸ hmem) hne)
    exact ⟨other, List.mem_append.mpr (hrest.imp_right (List.mem_cons_of_mem _)), hother⟩
  | @answer before after click hclicks hdone =>
    refine ⟨h.consistent, fun request hr => ?_⟩
    obtain ⟨other, hmem, hother⟩ := h.brought request hr
    -- a click that is answered waits for nothing
    have hne : other ≠ click := by
      rintro rfl
      cases hdone.symm.trans hother.awaits
    exact ⟨other, mem_without (hclicks ▸ hmem) hne, hother⟩

theorem Reachable.attended {t : Traffic} (h : t.Reachable) : t.Attended := by
  induction h with
  | start => exact attended_start
  | next _ step ih => exact ih.next step

/-- Without a click in progress nothing is awaited, so no card is opening. -/
theorem Attended.not_opening {t : Traffic} (h : t.Attended) (hnone : t.clicks = []) {board : Board}
    (hboard : t.service.board = some board) {c : Card} (hc : c ∈ board.cards) (ticket : Nat) :
    c.state ≠ .opening ticket := by
  intro hstate
  have hawaited := (h.consistent board hboard).awaited?_of_opening hc hstate
  obtain ⟨click, hmem, _⟩ :=
    h.brought _ (Service.awaited?_eq_some_iff.mpr ⟨board, hboard, hawaited⟩)
  rw [hnone] at hmem
  cases hmem

/-! ## The main statement -/

/-- Every card that is opening has a click in progress that was placed on this board, for this card
and with this ticket, and whose history is still to come; when it comes, the card takes it. So
without a click in progress every card is closed or open, and the panel is that of an open card. -/
theorem opening_card_has_click {t : Traffic} (h : t.Reachable) {board : Board}
    (hboard : t.service.board = some board) :
    (∀ c ∈ board.cards, ∀ ticket, c.state = .opening ticket →
      (∃ click ∈ t.clicks, click.survey = t.surveys ∧ click.toggle.key = c.key ∧
        click.awaits = some ⟨c.key, c.sensor.resource, ticket⟩) ∧
      ∀ answer, (board.deliver ⟨c.key, c.sensor.resource, ticket⟩ answer).1 ≠ .stale) ∧
    (t.clicks = [] →
      (∀ c ∈ board.cards, c.state = .closed ∨ c.state = .opened) ∧
      ∀ panel, board.panel = some panel →
        ∃ c, board.card? panel.owner = some c ∧ c.state = .opened) := by
  have hb := h.attended.consistent board hboard
  refine ⟨fun c hc ticket hstate => ?_, fun hnone => ?_⟩
  · have hawaited := hb.awaited?_of_opening hc hstate
    obtain ⟨click, hmem, hclick⟩ :=
      h.attended.brought _ (Service.awaited?_eq_some_iff.mpr ⟨board, hboard, hawaited⟩)
    refine ⟨⟨click, hmem, hclick.survey, hclick.key, hclick.awaits⟩, fun answer hstale => ?_⟩
    exact (Board.deliver_stale_iff hb).mp hstale _ hawaited ⟨rfl, rfl⟩
  · have hsettled : ∀ c ∈ board.cards, c.state = .closed ∨ c.state = .opened := by
      intro c hc
      cases hstate : c.state with
      | closed => exact Or.inl rfl
      | opened => exact Or.inr rfl
      | opening ticket => exact absurd hstate (h.attended.not_opening hnone hboard hc ticket)
    refine ⟨hsettled, fun panel hpanel => ?_⟩
    obtain ⟨c, hcard, hopen, _⟩ := hb.coherent.chart panel hpanel
    exact ⟨c, hcard, (hsettled c (Board.mem_of_card? hcard).1).resolve_left hopen⟩

/-! ## The porch, clicked on two boards -/

/-- The thermometer is clicked, the porch is surveyed again before the history comes, and the
thermometer is clicked again: two clicks wait for histories with one key and one ticket. -/
def porchTraffic : Traffic :=
  (((start.survey 1 .builtin Survey.porch).receive (Service.porchClick ".3303.0")).survey 2
    .builtin Survey.porch).receive (Service.porchClick ".3303.0")

theorem reachable_porchTraffic : porchTraffic.Reachable := by
  have hsurveyed := Reachable.start.next (.survey 1 .builtin Survey.porch)
  have hclicked := hsurveyed.next (.receive (Service.porchClick ".3303.0"))
  have hrenewed := hclicked.next (.survey 2 .builtin Survey.porch)
  exact hrenewed.next (.receive (Service.porchClick ".3303.0"))

theorem clicks_porchTraffic : ∃ former latter, porchTraffic.clicks = [former, latter] ∧
    former.awaits = some Service.porchRequest ∧ latter.awaits = some Service.porchRequest := by
  have h : (porchTraffic.clicks.map fun click => click.awaits) =
      [some Service.porchRequest, some Service.porchRequest] := by
    decide +kernel
  obtain ⟨former, rest, hclicks, hformer, hrest⟩ := List.map_eq_cons_iff.mp h
  obtain ⟨latter, none, hrest, hlatter, hnone⟩ := List.map_eq_cons_iff.mp hrest
  obtain rfl := List.map_eq_nil_iff.mp hnone
  exact ⟨former, latter, hclicks.trans (by rw [hrest]), hformer, hlatter⟩

/-- The first click gets its history and is answered. -/
theorem Reachable.handled {t : Traffic} (h : t.Reachable) {click : PendingClick}
    {rest : List PendingClick} {request : HistoryRequest} (hclicks : t.clicks = click :: rest)
    (hawaits : click.awaits = some request) (answer : Except LookupError (List HistoryPoint)) :
    Reachable ⟨t.service.perform (.deliver click.toggle request answer), t.surveys, rest⟩ := by
  have hdelivered := h.next (@Next.deliver t [] rest click request answer hclicks hawaits)
  exact hdelivered.next (@Next.answer _ [] rest _ rfl rfl)

/-- While both clicks wait, the thermometer is opening for the second of them. Once both have got
an error and are answered, the panel is that of the open thermometer. -/
theorem opening_card_has_click_porch :
    (∃ (board : Board) (c : Card), porchTraffic.service.board = some board ∧ c ∈ board.cards ∧
      c.state = .opening 1 ∧ ∃ click ∈ porchTraffic.clicks, click.survey = 2 ∧
        click.awaits = some ⟨c.key, c.sensor.resource, 1⟩) ∧
    ∃ (t : Traffic) (board : Board) (panel : Panel) (c : Card), t.Reachable ∧ t.clicks = [] ∧
      t.service.board = some board ∧ board.panel = some panel ∧
      board.card? panel.owner = some c ∧ c.state = .opened := by
  constructor
  · have hopening : (porchTraffic.service.board.bind fun b => b.cards.head?).map Card.state =
        some (.opening 1) := by
      decide +kernel
    obtain ⟨c, hc, hstate⟩ := Option.map_eq_some_iff.mp hopening
    obtain ⟨board, hboard, hc⟩ := Option.bind_eq_some_iff.mp hc
    have hmem := List.mem_of_mem_head? hc
    obtain ⟨⟨click, hclick, hsurvey, _, hawaits⟩, _⟩ :=
      (opening_card_has_click reachable_porchTraffic hboard).1 c hmem 1 hstate
    exact ⟨board, c, hboard, hmem, hstate, click, hclick, hsurvey, hawaits⟩
  · obtain ⟨former, latter, hclicks, hformer, hlatter⟩ := clicks_porchTraffic
    have hfirst := reachable_porchTraffic.handled hclicks hformer (.error (.undecodable ""))
    have hboth := hfirst.handled rfl hlatter (.error (.undecodable ""))
    have hshown : ((((porchTraffic.service.board.map fun b =>
        (b.deliver Service.porchRequest (.error (.undecodable ""))).2).map fun b =>
        (b.deliver Service.porchRequest (.error (.undecodable ""))).2)).bind
          Board.panel).isSome = true := by
      decide +kernel
    obtain ⟨panel, hpanel⟩ := Option.isSome_iff_exists.mp hshown
    obtain ⟨board, hboard, hpanel⟩ := Option.bind_eq_some_iff.mp hpanel
    simp only [Service.perform, Service.deliver_snd] at hboth
    obtain ⟨_, hsettled⟩ := opening_card_has_click hboth hboard
    obtain ⟨c, hcard, hstate⟩ := (hsettled rfl).2 panel hpanel
    exact ⟨_, board, panel, c, hboth, rfl, hboard, hpanel, hcard, hstate⟩

end Traffic

end SensorBoard
