import SensorBoard.Proofs.Board.Identity
import SensorBoard.Proofs.Service.Answer

/-!
# Requests that change nothing

A request is answered in one step, or it is a click or a reload and others may be served between its
steps (`Exchange`). What only reads and what is refused is answered in one step that leaves the
service as it is, and no lookup is made for it (`unchanged_of_refused`). A click is refused for its
card only if the board does not have the card, and then the panel is still where it was.
-/

namespace SensorBoard.Service

variable {s s' : Service} {r : Request} {response : Response} {lookups : List Lookup}
  {toggle : PlacedToggle} {key : CardKey} {metrics : Metrics}

/-! ## Exchanges -/

/-- The ways in which a request that reaches a service is answered: the response, the lookups made
for it, and the service at that moment. Whatever is served to others may come in between. -/
inductive Exchange (s : Service) (r : Request) : Response → List Lookup → Service → Prop where
  | atOnce {response : Response} (h : (s.receive r).1 = .answered response) :
      Exchange s r response [] (s.receive r).2
  -- a click that needs no history
  | placed {toggle : PlacedToggle} (h : (s.receive r).1 = .placed toggle)
      (hrequest : toggle.request = none) (between : List Step) :
      Exchange s r (((s.receive r).2.run between).answerToggle toggle) []
        ((s.receive r).2.run between)
  -- a click whose history is fetched, whatever comes of that
  | fetched {toggle answered : PlacedToggle} {request : HistoryRequest} {s' : Service}
      (h : (s.receive r).1 = .placed toggle) (hrequest : toggle.request = some request)
      (during after : List Step) (answer : Except LookupError (List HistoryPoint))
      (hamid : (s.receive r).2.deliverAmid during after request answer toggle = (answered, s')) :
      Exchange s r (s'.answerToggle answered) [.history request.key.device request.resource] s'
  | surveyed {response : Response} {s' : Service} (h : (s.receive r).1 = .surveying)
      (between : List Step) (now : Nat) (rules : RuleTable) (gateway : Gateway)
      (hfinish : ((s.receive r).2.run between).finishReload now
        (Survey.run rules gateway).result = (response, s')) :
      Exchange s r response (Survey.run rules gateway).lookups s'

section Handle

variable (rules : RuleTable) (gateway : Gateway) (now : Nat)

theorem handle_of_answered (h : (s.receive r).1 = .answered response) :
    s.handle rules gateway now r = (response, [], (s.receive r).2) := by
  rw [handle]
  rcases hreceive : s.receive r with ⟨received, s₁⟩
  obtain rfl : received = .answered response := by rw [← h, hreceive]
  rfl

theorem handle_of_surveying (h : (s.receive r).1 = .surveying) :
    s.handle rules gateway now r =
      (((s.receive r).2.finishReload now (Survey.run rules gateway).result).1,
        (Survey.run rules gateway).lookups,
        ((s.receive r).2.finishReload now (Survey.run rules gateway).result).2) := by
  rw [handle]
  rcases hreceive : s.receive r with ⟨received, s₁⟩
  obtain rfl : received = .surveying := by rw [← h, hreceive]
  rfl

theorem handle_of_placed (h : (s.receive r).1 = .placed toggle) (hrequest : toggle.request = none) :
    s.handle rules gateway now r =
      ((s.receive r).2.answerToggle toggle, [], (s.receive r).2) := by
  rw [handle]
  rcases hreceive : s.receive r with ⟨received, s₁⟩
  obtain rfl : received = .placed toggle := by rw [← h, hreceive]
  simp only [hrequest]

theorem handle_of_fetched {request : HistoryRequest} {answered : PlacedToggle}
    (h : (s.receive r).1 = .placed toggle) (hrequest : toggle.request = some request)
    (hdeliver : (s.receive r).2.deliver request
      (gateway.history request.key.device request.resource) toggle = (answered, s')) :
    s.handle rules gateway now r =
      (s'.answerToggle answered, [.history request.key.device request.resource], s') := by
  rw [handle]
  rcases hreceive : s.receive r with ⟨received, s₁⟩
  obtain rfl : received = .placed toggle := by rw [← h, hreceive]
  rw [hreceive] at hdeliver
  simp only [hrequest, hdeliver]

/-- Serving a request in one go is an exchange with nothing in between. -/
theorem exchange_handle (r : Request) (s : Service) :
    let done := s.handle rules gateway now r
    s.Exchange r done.1 done.2.1 done.2.2 := by
  intro done
  cases hreceived : (s.receive r).1 with
  | answered response =>
    rw [show done = _ from handle_of_answered rules gateway now hreceived]
    exact .atOnce hreceived
  | surveying =>
    rw [show done = _ from handle_of_surveying rules gateway now hreceived]
    exact .surveyed hreceived [] now rules gateway rfl
  | placed toggle =>
    cases hrequest : toggle.request with
    | none =>
      rw [show done = _ from handle_of_placed rules gateway now hreceived hrequest]
      exact .placed hreceived hrequest []
    | some request =>
      rw [show done = _ from handle_of_fetched rules gateway now hreceived hrequest rfl]
      exact .fetched hreceived hrequest [] [] _ rfl

end Handle

/-! ## What is answered in one step -/

/-- A survey is asked for. -/
def IsReload (r : Request) : Prop := r.method = .post ∧ Route.ofTarget? r.target = some .reload

theorem receiveClick_ne_surveying (device sensor : String) (r : Request) (s : Service) :
    (s.receiveClick device sensor r).1 ≠ .surveying := by
  rw [receiveClick]
  cases click device sensor r with
  | error refusal => simp
  | ok clicked =>
    obtain ⟨key, metrics⟩ := clicked
    dsimp only
    rcases s.place key metrics with ⟨placing, _⟩
    cases placing <;> simp

theorem isReload_of_surveying (h : (s.receive r).1 = .surveying) : IsReload r := by
  rcases receive_eq r s with ⟨_, heq⟩ | ⟨_, device, sensor, heq⟩ | ⟨hpost, hroute, _⟩
  · rw [heq] at h
    cases h
  · rw [heq] at h
    exact absurd h (receiveClick_ne_surveying device sensor r s)
  · exact ⟨hpost, hroute⟩

theorem method_of_placed (h : (s.receive r).1 = .placed toggle) : r.method = .post := by
  rcases receive_eq r s with ⟨_, heq⟩ | ⟨hpost, _⟩ | ⟨hpost, _⟩
  · rw [heq] at h
    cases h
  · exact hpost
  · exact hpost

theorem placedOf?_eq_none_iff {outcome : ToggleOutcome} :
    placedOf? key outcome = none ↔ outcome = .unknown := by
  cases outcome <;> simp [placedOf?]

/-- What is answered in one step leaves the service as it is. If the answer is that the card is not
there, the click has not got as far as the panel. -/
theorem receive_of_answered (hs : s.Consistent) (h : (s.receive r).1 = .answered response) :
    (s.receive r).2 = s := by
  have step := receive_step r s
  rw [h] at step
  generalize (s.receive r).2 = s' at step ⊢
  cases step with
  | unchanged _ => rfl
  | @missed board key metrics hboard hmissed =>
    have hb := hs board hboard
    have hsame : (board.toggle key metrics).2 = board :=
      (Board.toggle_step hb key metrics).eq_of_unknown (placedOf?_eq_none_iff.mp hmissed)
    rw [hsame, ← hboard]

theorem Exchange.of_answered (hexchange : s.Exchange r response lookups s') (hs : s.Consistent)
    {told : Response} (h : (s.receive r).1 = .answered told) :
    response = told ∧ lookups = [] ∧ s' = s := by
  cases hexchange with
  | atOnce hresponse =>
    exact ⟨Received.answered.inj (hresponse.symm.trans h), rfl, receive_of_answered hs h⟩
  | placed hplaced _ _ => cases h.symm.trans hplaced
  | fetched hplaced _ _ _ _ _ => cases h.symm.trans hplaced
  | surveyed hsurveying _ _ _ _ _ => cases h.symm.trans hsurveying

/-- A click that was placed is answered with the status 200 in the end, whatever has become of
it. -/
theorem Exchange.status_of_placed (hexchange : s.Exchange r response lookups s')
    (h : (s.receive r).1 = .placed toggle) : response.status = 200 := by
  cases hexchange with
  | atOnce hresponse => cases h.symm.trans hresponse
  | placed _ _ _ => rfl
  | fetched _ _ _ _ _ _ => rfl
  | surveyed hsurveying _ _ _ _ _ => cases h.symm.trans hsurveying

/-! ## Clicks on cards that are not there -/

/-- The request is a click on the card with the key: its method, route, path and body are those of a
click. -/
def Clicks (r : Request) (key : CardKey) (metrics : Metrics) : Prop :=
  r.method = .post ∧ ∃ device sensor, Route.ofTarget? r.target = some (.toggle device sensor) ∧
    click device sensor r = .ok (key, metrics)

/-- A click in order reaches the board. -/
theorem receive_of_clicks (h : Clicks r key metrics) {board : Board}
    (hboard : s.board = some board) :
    (s.receive r).2 = { s with board := some (board.toggle key metrics).2 } ∧
      (s.receive r).1 = match placedOf? key (board.toggle key metrics).1 with
        | none => .answered (.ofStatus 404)
        | some toggle => .placed toggle := by
  obtain ⟨hmethod, device, sensor, hroute, hclick⟩ := h
  have hnot : r.method ≠ .options := by rw [hmethod]; decide
  rw [receive, if_neg hnot, hroute]
  simp only [hmethod, if_true, receiveClick, hclick, place, hboard]
  cases placedOf? key (board.toggle key metrics).1 <;> exact ⟨rfl, rfl⟩

theorem Exchange.status_eq_404_iff (hexchange : s.Exchange r response lookups s')
    (hs : s.Consistent) (h : Clicks r key metrics) {board : Board} (hboard : s.board = some board) :
    response.status = 404 ↔ key ∉ board.keys := by
  have hb := hs board hboard
  rw [← (Board.toggle_step hb key metrics).eq_unknown_iff, ← @placedOf?_eq_none_iff key]
  have hreceived := (receive_of_clicks h hboard).2
  cases hplaced : placedOf? key (board.toggle key metrics).1 with
  | none =>
    rw [hplaced] at hreceived
    obtain ⟨rfl, _⟩ := hexchange.of_answered hs hreceived
    exact iff_of_true rfl rfl
  | some toggle =>
    rw [hplaced] at hreceived
    rw [hexchange.status_of_placed hreceived]
    simp

/-! ## The main statement -/

/-- At any time of a run, and whatever is served to others in between: a request that is not a
reload and is answered with a status of 400 or above, or that only reads, leaves the service as it is
and makes no lookup. A click that is in order is answered with 404 exactly if the board has no such
card, and then no panel was taken down for it. Every request gets an answer. -/
theorem unchanged_of_refused (steps : List Step) (r : Request) :
    let s := start.run steps
    (∀ rules gateway now, let done := s.handle rules gateway now r
      s.Exchange r done.1 done.2.1 done.2.2) ∧
    ∀ response lookups s', s.Exchange r response lookups s' →
      (¬ IsReload r → 400 ≤ response.status ∨ r.method = .get ∨ r.method = .head →
        s' = s ∧ lookups = []) ∧
      ∀ board key metrics, s.board = some board → Clicks r key metrics →
        (response.status = 404 ↔ ∀ c ∈ board.cards, c.key ≠ key) ∧
        (response.status = 404 → s'.board = some board) := by
  intro s
  have hs : s.Consistent := consistent_run_start steps
  refine ⟨fun rules gateway now => exchange_handle rules gateway now r s, ?_⟩
  intro response lookups s' hexchange
  -- what is not answered in one step is a reload, or a click that is answered with 200
  have hrefused : ¬ IsReload r → 400 ≤ response.status ∨ r.method = .get ∨ r.method = .head →
      s' = s ∧ lookups = [] := by
    intro hreload hrefused
    cases hreceived : (s.receive r).1 with
    | answered told =>
      obtain ⟨_, hlookups, hsame⟩ := hexchange.of_answered hs hreceived
      exact ⟨hsame, hlookups⟩
    | surveying => exact absurd (isReload_of_surveying hreceived) hreload
    | placed toggle =>
      have hstatus := hexchange.status_of_placed hreceived
      have hmethod := method_of_placed hreceived
      simp [hstatus, hmethod] at hrefused
  refine ⟨hrefused, fun board key metrics hboard hclicks => ?_⟩
  have hmissing := hexchange.status_eq_404_iff hs hclicks hboard
  constructor
  · rw [hmissing, Board.mem_keys]
    simp
  · intro hstatus
    have hreload : ¬ IsReload r := by
      rintro ⟨_, hroute⟩
      obtain ⟨_, _, _, hclick, _⟩ := hclicks
      cases hroute.symm.trans hclick
    rw [(hrefused hreload (Or.inl (by omega))).1]
    exact hboard

/-- While the thermometer of the porch waits for its history, a sensor is clicked that has no card.
The answer is 404, and the panel of the thermometer stays. -/
theorem unchanged_of_refused_porch :
    let s := start.run [.reload 1 .builtin Survey.porch, .receive (porchClick ".3303.0")]
    let done := s.handle .builtin Survey.porch 2 (porchClick ".5.1")
    done.1.status = 404 ∧ done.2.1 = [] ∧ done.2.2 = s ∧
      (done.2.2.board.bind Board.panel).isSome = true := by
  intro s done
  obtain ⟨hexchange, hunchanged⟩ := unchanged_of_refused
    [.reload 1 .builtin Survey.porch, .receive (porchClick ".3303.0")] (porchClick ".5.1")
  have hreload : ¬ IsReload (porchClick ".5.1") := by
    rintro ⟨_, hroute⟩
    exact absurd hroute (by decide +kernel)
  have hstatus : done.1.status = 404 := by decide +kernel
  have hrefused : 400 ≤ done.1.status := by rw [hstatus]; decide
  obtain ⟨hsame, hlookups⟩ :=
    (hunchanged _ _ _ (hexchange .builtin Survey.porch 2)).1 hreload (Or.inl hrefused)
  have hpanel : (s.board.bind Board.panel).isSome = true := by decide +kernel
  exact ⟨hstatus, hlookups, hsame, hsame ▸ hpanel⟩

end SensorBoard.Service
