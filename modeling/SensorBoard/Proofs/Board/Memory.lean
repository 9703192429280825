import SensorBoard.Proofs.Board.Request

/-!
# What cards remember

A history that was fetched is kept. Over any run a card has a history exactly if one answer was
rendered for it, and then it has the points of that answer (`history_eq_rendered`). From then on it
opens with them at once and takes no other answer; until then it asks whenever it is opened. An
answer for one card leaves all others alone.
-/

namespace SensorBoard

/-- Has the answer been drawn? -/
def Delivery.isRendered : Delivery → Bool
  | rendered _ => true
  | stale => false
  | failed _ => false

/-- The card without what clicks can change. -/
def Card.content (c : Card) : Card := { c with state := .closed, lamp := none }

@[simp] theorem Card.key_content (c : Card) : c.content.key = c.key := rfl

namespace Board

variable {b : Board}

/-! ## Histories -/

/-- The history that is kept for a key. -/
def history? (b : Board) (key : CardKey) : Option (List HistoryPoint) :=
  (b.card? key).bind Card.history

/-- The cards without what clicks can change. -/
def contents (b : Board) : List Card := b.cards.map Card.content

theorem history?_of_mem (hkeys : b.keys.Nodup) {c : Card} (hc : c ∈ b.cards) :
    b.history? c.key = c.history := by
  rw [history?, card?_of_mem hkeys hc, Option.bind_some]

theorem history?_eq_some_iff {key : CardKey} {points : List HistoryPoint} :
    b.history? key = some points ↔ ∃ c, b.card? key = some c ∧ c.history = some points :=
  Option.bind_eq_some_iff

/-- Boards whose cards are the same in some respect have the same card in it under every key. -/
theorem map_card?_congr {f : Card → Card} (hf : ∀ c, (f c).key = c.key) {b' : Board}
    (h : b'.cards.map f = b.cards.map f) (key : CardKey) :
    (b'.card? key).map f = (b.card? key).map f := by
  have hfind : ∀ b : Board,
      (b.card? key).map f = (b.cards.map f).find? fun c => c.key == key := by
    intro b
    rw [List.find?_map, card?]
    simp only [Function.comp_def, hf]
  rw [hfind, hfind, h]

theorem history?_congr {b' : Board} (h : b'.contents = b.contents) (key : CardKey) :
    b'.history? key = b.history? key := by
  have hread : ∀ b : Board, b.history? key = ((b.card? key).map Card.content).bind Card.history := by
    intro b
    rw [Option.bind_map]
    rfl
  rw [hread, hread, map_card?_congr Card.key_content h]

/-! ## Clicks and histories -/

section Toggle

variable {key : CardKey} {metrics : Metrics} {outcome : ToggleOutcome} {b' : Board}

@[simp] theorem contents_cleared (b : Board) : b.cleared.contents = b.contents := by
  rw [contents, contents, cleared, List.map_map]
  rfl

/-- No click changes a history. -/
theorem ToggleStep.contents (step : b.ToggleStep key metrics outcome b') (h : b.Consistent) :
    b'.contents = b.contents := by
  cases step with
  | unknown _ => rfl
  | switched hmem _ _ => exact map_replaceCard h.keys_nodup hmem rfl rfl
  | closed _ _ _ _ => exact contents_cleared b
  | opened hmem _ _ hopen =>
    rw [← contents_cleared b]
    have hcleared := mem_cleared_of_isOpen_eq_false hmem hopen
    exact map_replaceCard h.cleared.keys_nodup hcleared rfl rfl

/-- A click opens a card exactly if the card is closed and no lamp. -/
theorem ToggleStep.isOpening_iff (step : b.ToggleStep key metrics outcome b') (h : b.Consistent)
    {c : Card} (hc : c ∈ b.cards) (hkey : c.key = key) :
    outcome.isOpening = true ↔ c.isLamp = false ∧ c.isOpen = false := by
  subst hkey
  cases step with
  | unknown hnot => exact absurd (key_mem_keys hc) hnot
  | switched hmem hcard hlamp =>
    obtain rfl := eq_of_key_eq h.keys_nodup hmem hc hcard
    simp [ToggleOutcome.isOpening, Card.isLamp_of_lamp_eq_some hlamp]
  | closed hmem hcard _ hopen =>
    obtain rfl := eq_of_key_eq h.keys_nodup hmem hc hcard
    simp [ToggleOutcome.isOpening, hopen]
  | opened hmem hcard hlamp hopen =>
    obtain rfl := eq_of_key_eq h.keys_nodup hmem hc hcard
    simp [isOpening_opens, hlamp, hopen]

/-- A card that a click opens is answered for by its history, and the panel shows its chart. -/
theorem ToggleStep.opens_of_isOpening (step : b.ToggleStep key metrics outcome b')
    (h : b.Consistent) {c : Card} (hc : c ∈ b.cards) (hkey : c.key = key)
    (hopening : outcome.isOpening = true) :
    (∃ placement slot, outcome = c.opens placement slot b.nextTicket) ∧
      b'.panel = some ⟨key, true, c.chart?⟩ := by
  cases step with
  | unknown _ => cases hopening
  | switched _ _ _ => cases hopening
  | closed _ _ _ _ => cases hopening
  | opened hmem hcard _ _ =>
    subst hkey
    obtain rfl := eq_of_key_eq h.keys_nodup hmem hc hcard
    exact ⟨⟨_, _, rfl⟩, rfl⟩

end Toggle

/-! ## Answers and histories -/

section Deliver

variable {request : HistoryRequest} {answer : Except LookupError (List HistoryPoint)}
  {delivery : Delivery} {b' : Board}

/-- An answer for one card leaves all others alone. -/
theorem DeliverStep.card?_of_ne (step : b.DeliverStep request answer delivery b')
    (h : b.Consistent) {key : CardKey} (hne : key ≠ request.key) : b'.card? key = b.card? key := by
  cases step with
  | stale _ => rfl
  | @taken card hshows hkey _ =>
    have hmem : (card.settle answer).key ∈ b.keys := by simpa using key_mem_keys hshows.mem
    apply (card?_replaceCard h.keys_nodup hmem).2
    rwa [Card.key_settle, hkey]

/-- A card without a history gets that of the answer that is rendered for it; in no other way does an
answer change what is kept. -/
theorem DeliverStep.history? (step : b.DeliverStep request answer delivery b') (h : b.Consistent)
    (key : CardKey) :
    (b'.history? key).toList.map Except.ok = (b.history? key).toList.map Except.ok ++
      if delivery.isRendered = true ∧ request.key = key then [answer] else [] := by
  by_cases hne : key = request.key
  · subst hne
    cases step with
    | stale _ => simp [Delivery.isRendered]
    | @taken card hshows hkey hstate =>
      have hmem : (card.settle answer).key ∈ b.keys := by simpa using key_mem_keys hshows.mem
      have hafter : (b.settled card answer).card? request.key = some (card.settle answer) := by
        have hself := (card?_replaceCard h.keys_nodup hmem).1
        rwa [Card.key_settle, hkey] at hself
      have hbefore : b.history? request.key = none := by
        rw [← hkey, history?_of_mem h.keys_nodup hshows.mem, (h.waiting card hshows.mem _ hstate).1]
      rw [hbefore, Board.history?, hafter, Option.bind_some]
      cases answer with
      | ok points => simp [Card.settle, Card.takes, Delivery.isRendered]
      | error cause =>
        -- an error leaves the card without a history, as it was
        have hnone := (h.waiting card hshows.mem _ hstate).1
        simp [Card.settle, Card.takes, Delivery.isRendered, hnone]
  · rw [Board.history?, step.card?_of_ne h hne, if_neg (fun hboth => hne hboth.2.symm)]
    exact (List.append_nil _).symm

/-- A card with a history waits for nothing. -/
theorem deliver_of_history (h : b.Consistent) {points : List HistoryPoint}
    (hkept : b.history? request.key = some points) : b.deliver request answer = (.stale, b) := by
  apply deliver_of_not_waiting
  intro c hc hkey hstate
  rw [← hkey, history?_of_mem h.keys_nodup hc, (h.waiting c hc _ hstate).1] at hkept
  cases hkept

end Deliver

/-! ## Runs -/

/-- The answer that an action brings to a card, if it is one that is rendered for it. -/
def renders? (b : Board) (key : CardKey) : Action → Option (Except LookupError (List HistoryPoint))
  | .toggle _ _ => none
  | .deliver request answer =>
    if (b.deliver request answer).1.isRendered = true ∧ request.key = key then some answer else none

/-- The answers that were rendered for a card along a run, in their order. -/
def rendered (b : Board) (key : CardKey) :
    List Action → List (Except LookupError (List HistoryPoint))
  | [] => []
  | action :: rest => (b.renders? key action).toList ++ (b.perform action).rendered key rest

theorem Consistent.history?_perform (h : b.Consistent) (key : CardKey) (action : Action) :
    ((b.perform action).history? key).toList.map Except.ok =
      (b.history? key).toList.map Except.ok ++ (b.renders? key action).toList := by
  cases action with
  | toggle key' metrics =>
    have hcontents := (toggle_step h key' metrics).contents h
    rw [Board.perform, history?_congr hcontents]
    exact (List.append_nil _).symm
  | deliver request answer =>
    rw [Board.perform, (deliver_step h request answer).history? h key, renders?]
    split <;> rfl

/-- What is kept after a run is what was kept before and what was rendered along the run. -/
theorem Consistent.history?_run (h : b.Consistent) (key : CardKey) (actions : List Action) :
    ((b.run actions).history? key).toList.map Except.ok =
      (b.history? key).toList.map Except.ok ++ b.rendered key actions := by
  induction actions generalizing b with
  | nil => exact (List.append_nil _).symm
  | cons action rest ih =>
    rw [run_cons, ih (h.perform action), h.history?_perform, rendered, List.append_assoc]

/-- There is room for one history, so what is kept stays. -/
theorem Consistent.history?_run_of_some (h : b.Consistent) {key : CardKey}
    {points : List HistoryPoint} (hkept : b.history? key = some points) (actions : List Action) :
    (b.run actions).history? key = some points := by
  have hrun := h.history?_run key actions
  rw [hkept] at hrun
  cases hafter : (b.run actions).history? key with
  | none => simp [hafter] at hrun
  | some later =>
    simp only [hafter, Option.toList_some, List.map_cons, List.map_nil, List.cons_append,
      List.nil_append, List.cons.injEq, Except.ok.injEq] at hrun
    rw [hrun.1]

/-! ## Cards with a history -/

/-- The board keeps the history that the chart shows for the card with the key. -/
structure Keeps (b : Board) (key : CardKey) (chart : Chart) : Prop where
  /-- The card has the points. -/
  history : ∃ c, b.card? key = some c ∧ c.history = some chart.points
  /-- No answer for the card is taken, be it points or an error. -/
  deliver : ∀ request answer, request.key = key → (b.deliver request answer).1 = .stale
  /-- A click that opens the card asks for nothing, and the panel shows the chart. -/
  toggle : ∀ metrics, (b.toggle key metrics).1.isOpening = true →
    (∃ placement slot, (b.toggle key metrics).1 = .opened placement slot) ∧
      (b.toggle key metrics).2.panel = some ⟨key, true, some chart⟩

theorem Consistent.keeps (h : b.Consistent) {c : Card} (hc : c ∈ b.cards)
    {points : List HistoryPoint} (hkept : c.history = some points) :
    b.Keeps c.key ⟨c.sensor.quantity.label, c.units, points⟩ where
  history := ⟨c, card?_of_mem h.keys_nodup hc, hkept⟩
  deliver := by
    rintro request answer hkey
    rw [deliver_of_history h]
    rw [hkey, history?_of_mem h.keys_nodup hc, hkept]
  toggle := by
    intro metrics hopening
    obtain ⟨⟨placement, slot, houtcome⟩, hpanel⟩ :=
      (toggle_step h c.key metrics).opens_of_isOpening h hc rfl hopening
    rw [Card.opens, hkept] at houtcome
    rw [Card.chart?, hkept] at hpanel
    exact ⟨⟨placement, slot, houtcome⟩, hpanel⟩

/-- The board keeps what it has, whatever happens to it. -/
theorem Consistent.keeps_run (h : b.Consistent) {c : Card} (hc : c ∈ b.cards)
    {points : List HistoryPoint} (hkept : c.history = some points) (actions : List Action) :
    (b.run actions).Keeps c.key ⟨c.sensor.quantity.label, c.units, points⟩ := by
  have hbefore : b.history? c.key = some points := by rw [history?_of_mem h.keys_nodup hc, hkept]
  obtain ⟨c', hcard, hlater⟩ :=
    history?_eq_some_iff.mp (h.history?_run_of_some hbefore actions)
  obtain ⟨hc', hkey⟩ := mem_of_card? hcard
  -- the label and the units are what the survey found, which nothing changes
  have hblank := map_card?_congr Card.key_blank (h.blanks_run actions) c.key
  rw [hcard, card?_of_mem h.keys_nodup hc] at hblank
  have hsensor : c'.blank.sensor = c.blank.sensor := by rw [Option.some.inj hblank]
  have hrule : c'.blank.rule = c.blank.rule := by rw [Option.some.inj hblank]
  have hkeeps := (h.run actions).keeps hc' hlater
  rw [hkey, Card.units, show c'.sensor = c.sensor from hsensor,
    show c'.rule = c.rule from hrule] at hkeeps
  exact hkeeps

/-! ## The main statement -/

/-- On the board of a successful survey, whatever was clicked and whatever answers came, a card has
a history exactly if one answer was rendered for it, and the points are those of that answer. It
keeps them from then on. As long as none was rendered, a click that opens the card asks for its
history. An answer for one card leaves all others alone. -/
theorem history_eq_rendered {rules : RuleTable} {gateway : Gateway} {d : Dashboard}
    (hsurvey : (Survey.run rules gateway).result = .ok d) (actions : List Action) :
    let start := ofDashboard d
    let b := start.run actions
    (∀ c ∈ b.cards,
      start.rendered c.key actions = c.history.toList.map .ok ∧
      (∀ points, c.history = some points → ∀ later,
        (b.run later).Keeps c.key ⟨c.sensor.quantity.label, c.units, points⟩) ∧
      (start.rendered c.key actions = [] → ∀ metrics,
        (b.toggle c.key metrics).1.isOpening = true → ∃ placement slot,
          (b.toggle c.key metrics).1 =
            .opening placement slot ⟨c.key, c.sensor.resource, b.nextTicket⟩) ∧
      ∀ metrics, (b.toggle c.key metrics).1.isOpening = true ↔
        c.isLamp = false ∧ c.isOpen = false) ∧
    ∀ request answer key, key ≠ request.key →
      (b.deliver request answer).2.card? key = b.card? key := by
  have hfresh := Survey.fresh_of_run hsurvey
  have hstart := consistent_ofDashboard hfresh
  have h := hstart.run actions
  refine ⟨fun c hc => ?_, fun request answer key hne => ?_⟩
  · have hrendered : (ofDashboard d).rendered c.key actions = c.history.toList.map .ok := by
      -- a fresh board keeps nothing, so all that is kept was rendered along the run
      have hnone : (ofDashboard d).history? c.key = none := by
        rw [Board.history?, Option.bind_eq_none_iff]
        intro c₀ hfind
        obtain ⟨device, sensor, rule, rfl⟩ := hfresh.ofRecord c₀ (mem_of_card? hfind).1
        rfl
      have hrun := hstart.history?_run c.key actions
      rw [hnone, history?_of_mem h.keys_nodup hc] at hrun
      exact hrun.symm
    refine ⟨hrendered, fun points hkept later => h.keeps_run hc hkept later, ?_, ?_⟩
    · intro hempty metrics hopening
      have hnone : c.history = none := by
        rw [hrendered] at hempty
        cases hhist : c.history <;> simp [hhist] at hempty ⊢
      obtain ⟨⟨placement, slot, houtcome⟩, _⟩ :=
        (toggle_step h c.key metrics).opens_of_isOpening h hc rfl hopening
      rw [Card.opens, hnone] at houtcome
      exact ⟨placement, slot, houtcome⟩
    · intro metrics
      exact (toggle_step h c.key metrics).isOpening_iff h hc rfl
  · exact (deliver_step h request answer).card?_of_ne h hne

/-- On the porch the thermometer is opened twice: the first answer is an error, and the second one
is kept. -/
theorem history_eq_rendered_porch :
    let start := ofDashboard Survey.porchDashboard
    let key : CardKey := ⟨"porch", ".3303.0"⟩
    let click := Action.toggle key ⟨1200.0, 300.0⟩
    let points : List HistoryPoint := [⟨1000000, 21.5⟩]
    let actions := [click, .deliver ⟨key, ".3303.0.5700", 1⟩ (.error (.undecodable "")), click, click,
      .deliver ⟨key, ".3303.0.5700", 2⟩ (.ok points)]
    (Survey.run .builtin Survey.porch).result = .ok Survey.porchDashboard ∧
      start.rendered key actions = [.ok points] ∧
      ∀ later, ((start.run actions).run later).Keeps key ⟨"temperature", "celsius", points⟩ := by
  intro start key click points actions
  obtain ⟨c, hc, hkey, hkept, hlabel, hunits⟩ : ∃ c ∈ (start.run actions).cards, c.key = key ∧
      c.history = some points ∧ c.sensor.quantity.label = "temperature" ∧ c.units = "celsius" :=
    ⟨_, List.mem_cons_self .., rfl, rfl, rfl, rfl⟩
  obtain ⟨hrendered, hkeeps, _⟩ := (history_eq_rendered Survey.run_porch actions).1 c hc
  rw [hkey, hkept] at hrendered
  rw [hkey, hlabel, hunits] at hkeeps
  exact ⟨Survey.run_porch, hrendered, hkeeps points hkept⟩

end Board

end SensorBoard
