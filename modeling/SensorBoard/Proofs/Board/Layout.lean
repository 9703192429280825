import SensorBoard.Proofs.Board.Run

/-!
# The layout

Answers come when they come, and what is shown where must not depend on it. The outline of a board
is the board without all that answers can change: the histories, the charts, and whether an open
card still waits. An answer leaves the outline as it is, and a click does to the outline what it
does to the board. So two runs with the same clicks have the same layout after each of them, whatever
answers come in between (`layout_independent_of_answers`).
-/

namespace SensorBoard

/-! ## Outlines -/

/-- The card without what answers can change. -/
def Card.outline (c : Card) : Card :=
  { c with history := none, state := if c.isOpen then .opened else .closed }

/-- The panel without its chart. -/
def Panel.outline (p : Panel) : Panel := { p with chart := none }

/-- The board without what answers can change. -/
def Board.outline (b : Board) : Board :=
  { b with cards := b.cards.map Card.outline, panel := b.panel.map Panel.outline }

namespace Card

@[simp] theorem lamp_outline (c : Card) : c.outline.lamp = c.lamp := rfl

@[simp] theorem isOpen_outline (c : Card) : c.outline.isOpen = c.isOpen := by
  rw [outline]
  cases h : c.isOpen <;> rfl

@[simp] theorem outline_switch (c : Card) : c.switch.outline = c.outline.switch := rfl

@[simp] theorem outline_outline (c : Card) : c.outline.outline = c.outline := by
  rw [outline, isOpen_outline]
  rfl

theorem outline_of_isOpen {c : Card} (h : c.isOpen = true) :
    c.outline = { c with history := none, state := .opened } := by
  rw [outline, h]
  rfl

/-- Once it is opened, it makes no difference whether the card had a history. -/
@[simp] theorem outline_beginOpen (ticket : Nat) (c : Card) :
    (c.outline.beginOpen ticket).outline = (c.beginOpen ticket).outline := by
  rw [outline_of_isOpen (isOpen_beginOpen ..), outline_of_isOpen (isOpen_beginOpen ..)]
  rfl

theorem outline_settle {c : Card} (h : c.isOpen = true)
    (answer : Except LookupError (List HistoryPoint)) : (c.settle answer).outline = c.outline := by
  rw [outline_of_isOpen (isOpen_settle ..), outline_of_isOpen h]
  cases answer <;> rfl

end Card

namespace ToggleOutcome

/-- The outcome is the other, but the history may be at hand that the other still has to fetch. -/
inductive Serves : ToggleOutcome → ToggleOutcome → Prop where
  | same (outcome : ToggleOutcome) : Serves outcome outcome
  | kept (placement : Placement) (slot : Nat) (request : HistoryRequest) :
      Serves (opened placement slot) (opening placement slot request)

/-- The outcomes are the same, but for one of them the history may be at hand. -/
inductive Agrees : ToggleOutcome → ToggleOutcome → Prop where
  | same (outcome : ToggleOutcome) : Agrees outcome outcome
  | left (placement : Placement) (slot : Nat) (request : HistoryRequest) :
      Agrees (opened placement slot) (opening placement slot request)
  | right (placement : Placement) (slot : Nat) (request : HistoryRequest) :
      Agrees (opening placement slot request) (opened placement slot)

theorem Serves.agrees {o₁ o₂ o : ToggleOutcome} (h₁ : Serves o₁ o) (h₂ : Serves o₂ o) :
    Agrees o₁ o₂ := by
  cases h₁ with
  | same =>
    cases h₂ with
    | same => exact .same o₁
    | kept placement slot request => exact .right placement slot request
  | kept placement slot request =>
    cases h₂ with
    | same => exact .left placement slot request
    | kept => exact .same _

end ToggleOutcome

theorem Card.opens_serves (placement : Placement) (slot ticket : Nat) (c : Card) :
    (c.opens placement slot ticket).Serves (c.outline.opens placement slot ticket) := by
  rw [opens, opens]
  cases c.history with
  | none => exact .same _
  | some points => exact .kept placement slot _

namespace Board

variable {b : Board}

/-! ## Clicks and outlines -/

@[simp] theorem outline_cleared (b : Board) : b.cleared.outline = b.outline.cleared := by
  simp only [outline, cleared, List.map_map, Option.map_none]
  rfl

@[simp] theorem outline_replaceCard (b : Board) (card : Card) :
    (b.replaceCard card).outline = b.outline.replaceCard card.outline := by
  simp only [outline, replaceCard, List.map_map, Board.mk.injEq, true_and, and_true]
  refine List.map_congr_left fun c _ => ?_
  show Card.outline (if _ then _ else _) = _
  rw [apply_ite Card.outline]
  rfl

theorem card?_outline (b : Board) (key : CardKey) :
    b.outline.card? key = (b.card? key).map Card.outline := by
  rw [card?, outline, List.find?_map]
  rfl

@[simp] theorem outline_outline (b : Board) : b.outline.outline = b.outline := by
  simp only [outline, List.map_map, Option.map_map, Board.mk.injEq, true_and, and_true]
  constructor
  · exact List.map_congr_left fun c _ => c.outline_outline
  · rfl

theorem openCard_outline (b : Board) (card : Card) (metrics : Metrics) :
    (b.openCard card metrics).1.Serves (b.outline.openCard card.outline metrics).1 ∧
      (b.openCard card metrics).2.outline =
        (b.outline.openCard card.outline metrics).2.outline := by
  have hgrid : b.outline.grid.openDetail card.outline.key metrics =
      b.grid.openDetail card.key metrics := rfl
  rcases hfound : b.grid.openDetail card.key metrics with ⟨grid, _ | ⟨placement, slot⟩⟩
  · rw [openCard, openCard, hgrid, hfound]
    refine ⟨.same _, ?_⟩
    show { b.outline with grid := grid } = { b.outline.outline with grid := grid }
    rw [outline_outline]
  · rw [openCard_of_found hfound, openCard_of_found (hgrid.trans hfound)]
    refine ⟨card.opens_serves placement slot b.nextTicket, ?_⟩
    -- both put the opened card into its place, and what is new beside it has the same outline
    have hboard : (b.replaceCard (card.beginOpen b.nextTicket)).outline =
        (b.outline.replaceCard (card.outline.beginOpen b.nextTicket)).outline := by
      rw [outline_replaceCard, outline_replaceCard, outline_outline, Card.outline_beginOpen]
    exact congrArg (fun b' : Board => { b' with
      grid := grid, panel := some ⟨card.key, true, none⟩
      nextTicket := ticketAfter b.nextTicket }) hboard

/-- A click does to the outline what it does to the board. -/
theorem toggle_outline (b : Board) (key : CardKey) (metrics : Metrics) :
    (b.toggle key metrics).1.Serves (b.outline.toggle key metrics).1 ∧
      (b.toggle key metrics).2.outline = (b.outline.toggle key metrics).2.outline := by
  rw [toggle, toggle, card?_outline]
  cases b.card? key with
  | none => exact ⟨.same _, (outline_outline b).symm⟩
  | some card =>
    simp only [Option.map_some, Card.lamp_outline, Card.isOpen_outline]
    cases card.lamp with
    | some on =>
      refine ⟨.same _, ?_⟩
      simp only [outline_replaceCard, outline_outline, Card.outline_switch, Card.outline_outline]
    | none =>
      cases card.isOpen with
      | true =>
        refine ⟨.same _, ?_⟩
        simp only [if_true, outline_cleared, outline_outline]
      | false =>
        simp only [Bool.false_eq_true, if_false, ← outline_cleared]
        exact openCard_outline b.cleared card metrics

/-! ## Answers and outlines -/

/-- An answer does not reach the outline. -/
theorem DeliverStep.outline {request : HistoryRequest}
    {answer : Except LookupError (List HistoryPoint)} {delivery : Delivery} {b' : Board}
    (step : b.DeliverStep request answer delivery b') (h : b.Consistent) :
    b'.outline = b.outline := by
  cases step with
  | stale _ => rfl
  | @taken card hshows _ _ =>
    -- only the card that is shown has changed, and it was open before
    have hcards := map_replaceCard h.keys_nodup hshows.mem (Card.key_settle answer card)
      (Card.outline_settle hshows.isOpen answer)
    have hpanel : (some (Panel.ofCard (card.settle answer))).map Panel.outline =
        b.panel.map Panel.outline := by
      rw [hshows.panel, Panel.ofCard, Card.key_settle]
      rfl
    rw [settled, Board.outline, Board.outline, hcards, hpanel]
    rfl

/-! ## Runs -/

private theorem forall₂_join {α β γ : Type} {R : α → γ → Prop} {S : β → γ → Prop}
    {T : α → β → Prop} (hjoin : ∀ a b c, R a c → S b c → T a b) {as : List α} {bs : List β}
    {cs : List γ} (has : List.Forall₂ R as cs) (hbs : List.Forall₂ S bs cs) :
    List.Forall₂ T as bs := by
  induction has generalizing bs with
  | nil =>
    cases hbs
    exact .nil
  | cons hac _ ih =>
    cases hbs with
    | cons hbc hrest => exact .cons (hjoin _ _ _ hac hbc) (ih hrest)

/-- The click, if the action is one. -/
def Action.click? : Action → Option (CardKey × Metrics)
  | .toggle key metrics => some (key, metrics)
  | .deliver _ _ => none

/-- What each click of a run has done, with the board right after it. -/
def clicks (b : Board) : List Action → List (ToggleOutcome × Board)
  | [] => []
  | .toggle key metrics :: rest => b.toggle key metrics :: (b.toggle key metrics).2.clicks rest
  | .deliver request answer :: rest => (b.deliver request answer).2.clicks rest

/-- The outlines that clicks alone lead to, each with what the click has done there. -/
def layouts (b : Board) : List (CardKey × Metrics) → List (ToggleOutcome × Board)
  | [] => []
  | (key, metrics) :: rest =>
    ((b.toggle key metrics).1, (b.toggle key metrics).2.outline) ::
      (b.toggle key metrics).2.outline.layouts rest

/-- The outline after some clicks. -/
def lastLayout (b : Board) (clicked : List (CardKey × Metrics)) : Board :=
  clicked.foldl (fun b click => (b.toggle click.1 click.2).2.outline) b

/-- The clicks of a run do what they do to the outlines without any answer. -/
theorem Consistent.clicks_serve (h : b.Consistent) (actions : List Action) :
    List.Forall₂ (fun x y => x.1.Serves y.1 ∧ x.2.outline = y.2) (b.clicks actions)
        (b.outline.layouts (actions.filterMap Action.click?)) ∧
      (b.run actions).outline = b.outline.lastLayout (actions.filterMap Action.click?) := by
  induction actions generalizing b with
  | nil => exact ⟨.nil, rfl⟩
  | cons action rest ih =>
    obtain ⟨hclicks, hlast⟩ := ih (h.perform action)
    cases action with
    | toggle key metrics =>
      -- the rest starts from one outline, whether the click was made on the board or there
      obtain ⟨hserves, houtline⟩ := toggle_outline b key metrics
      rw [Board.perform, houtline] at hclicks hlast
      exact ⟨.cons ⟨hserves, houtline⟩ hclicks, hlast⟩
    | deliver request answer =>
      -- an answer is no click, and the rest starts from the outline there was
      rw [Board.perform, (deliver_step h request answer).outline h] at hclicks hlast
      exact ⟨hclicks, hlast⟩

/-! ## What is seen of a board -/

/-- Two boards show the same cards in the same places, and the same of them are open. -/
structure SameLayout (b b' : Board) : Prop where
  grid : b.grid = b'.grid
  openKeys : (b.cards.filter Card.isOpen).map Card.key = (b'.cards.filter Card.isOpen).map Card.key
  panel : b.panel.map (fun p => (p.owner, p.visible)) = b'.panel.map fun p => (p.owner, p.visible)
  lamps : b.cards.map (fun c => (c.key, c.lamp)) = b'.cards.map fun c => (c.key, c.lamp)
  nextTicket : b.nextTicket = b'.nextTicket

/-- The layout can be read off the outline. -/
theorem sameLayout_outline (b : Board) : b.outline.SameLayout b where
  grid := rfl
  openKeys := by
    have hopen : Card.isOpen ∘ Card.outline = Card.isOpen := funext Card.isOpen_outline
    rw [outline, List.filter_map, hopen, List.map_map]
    rfl
  panel := by
    rw [outline, Option.map_map]
    rfl
  lamps := by
    rw [outline, List.map_map]
    rfl
  nextTicket := rfl

theorem sameLayout_of_outline {b b' : Board} (h : b.outline = b'.outline) : b.SameLayout b' := by
  have hb := sameLayout_outline b
  have hb' := sameLayout_outline b'
  rw [h] at hb
  exact ⟨hb.grid.symm.trans hb'.grid, hb.openKeys.symm.trans hb'.openKeys,
    hb.panel.symm.trans hb'.panel, hb.lamps.symm.trans hb'.lamps,
    hb.nextTicket.symm.trans hb'.nextTicket⟩

/-! ## The main statement -/

/-- Two runs of the board of a successful survey with the same clicks have the same layout after
each of them and in the end, whatever answers come in between. What the clicks have done is the
same too, but for a history that may be at hand in one run and has to be fetched in the other. -/
theorem layout_independent_of_answers {rules : RuleTable} {gateway : Gateway} {d : Dashboard}
    (hsurvey : (Survey.run rules gateway).result = .ok d) {first second : List Action}
    (hclicks : first.filterMap Action.click? = second.filterMap Action.click?) :
    let start := ofDashboard d
    List.Forall₂ (fun x y => x.1.Agrees y.1 ∧ x.2.SameLayout y.2) (start.clicks first)
        (start.clicks second) ∧
      (start.run first).SameLayout (start.run second) := by
  have h := consistent_ofDashboard (Survey.fresh_of_run hsurvey)
  obtain ⟨hfirst, hfirstLast⟩ := h.clicks_serve first
  obtain ⟨hsecond, hsecondLast⟩ := h.clicks_serve second
  -- both runs are compared with the one that has the clicks alone
  rw [hclicks] at hfirst hfirstLast
  constructor
  · refine forall₂_join ?_ hfirst hsecond
    rintro x y z ⟨hx, hxz⟩ ⟨hy, hyz⟩
    exact ⟨hx.agrees hy, sameLayout_of_outline (hxz.trans hyz.symm)⟩
  · exact sameLayout_of_outline (hfirstLast.trans hsecondLast.symm)

/-- On the porch the thermometer is opened, closed and opened again. In one run its history comes in
between, so that there is a chart at once, and in the other it is still awaited. -/
theorem layout_independent_of_answers_porch :
    let start := ofDashboard Survey.porchDashboard
    let click := Action.toggle ⟨"porch", ".3303.0"⟩ ⟨1200.0, 300.0⟩
    let first := [click, .deliver ⟨⟨"porch", ".3303.0"⟩, ".3303.0.5700", 1⟩ (.ok []), click, click]
    let second := [click, click, click]
    (Survey.run .builtin Survey.porch).result = .ok Survey.porchDashboard ∧
      first.filterMap Action.click? = second.filterMap Action.click? ∧
      (start.run first).SameLayout (start.run second) ∧
      ((start.run first).panel.bind Panel.chart).isSome = true ∧
      ((start.run second).panel.bind Panel.chart).isSome = false := by
  intro start click first second
  have hclicks : first.filterMap Action.click? = second.filterMap Action.click? := rfl
  refine ⟨Survey.run_porch, hclicks, ?_, rfl, rfl⟩
  exact (layout_independent_of_answers Survey.run_porch hclicks).2

end Board

end SensorBoard
