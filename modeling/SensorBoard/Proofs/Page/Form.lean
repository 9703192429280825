import Mathlib.Data.Option.Defs
import Mathlib.Logic.Function.Basic
import SensorBoard.Proofs.Board.Run
import SensorBoard.Proofs.Page.Marks

/-!
# Pages of one form

The form of a board is what it looks like once all texts are covered: where the panel is, whether it
is visible, and of every card the picture and whether it is a lamp or open. A consistent board shows
the blocks of its cards in their order, with the block of the panel among them (`blocks_of_idle`,
`blocks_of_shows`), and the markup of a block is fixed by the form. So two pages of one form have the
same marks, whatever the texts on them are (`marks_document_eq`).
-/

namespace SensorBoard

/-- What the markup of a card depends on. -/
def Card.form (c : Card) : Quantity × Bool × Bool := (c.sensor.quantity, c.isLamp, c.isOpen)

theorem Card.form_eq_iff {c c' : Card} : c.form = c'.form ↔
    c.sensor.quantity = c'.sensor.quantity ∧ c.isLamp = c'.isLamp ∧ c.isOpen = c'.isOpen := by
  rw [form, form, Prod.mk.injEq, Prod.mk.injEq]

/-- The boards look the same once all texts are covered. -/
structure Board.SameForm (b b' : Board) : Prop where
  /-- The same slots hold the panel. -/
  slots : (b.grid.slots.map fun s => s == .detail) = b'.grid.slots.map fun s => s == .detail
  cards : b.cards.map Card.form = b'.cards.map Card.form
  panel : b.panel.map Panel.visible = b'.panel.map Panel.visible

/-- The slot of the panel is told by the slots that hold it. -/
theorem Grid.detailSlot?_eq (g : Grid) :
    g.detailSlot? = (g.slots.map fun s => s == .detail).findIdx? id := by
  rw [detailSlot?, List.idxOf?, List.findIdx?_map]
  rfl

namespace Page

/-! ## Blocks -/

theorem wrapperClasses_congr {c c' : Card} (h : c.form = c'.form) :
    wrapperClasses c = wrapperClasses c' := by
  obtain ⟨_, hlamp, hopen⟩ := Card.form_eq_iff.mp h
  unfold wrapperClasses
  rw [hlamp, hopen]

theorem skeleton_cardBlock_congr {c c' : Card} (h : c.form = c'.form) :
    skeleton (cardBlock c) = skeleton (cardBlock c') := by
  obtain ⟨hquantity, hlamp, _⟩ := Card.form_eq_iff.mp h
  simp only [skeleton, cardBlock, List.map_cons, List.map_nil, Piece.source?, innerClasses,
    wrapperClasses_congr h, hquantity, hlamp]

theorem skeleton_panelBlock_congr {p p' : Panel} (h : p.visible = p'.visible) :
    skeleton (panelBlock p) = skeleton (panelBlock p') := by
  simp only [skeleton, panelBlock, List.map_cons, List.map_nil, Piece.source?, h]

/-! ## The grid -/

/-- The blocks of the slots in their order. -/
def blocks (b : Board) : List Markup := b.grid.slots.map (slotBlock b)

theorem grid_eq (b : Board) : grid b = (blocks b).flatMap fun block => block ++ [.markup "\n"] := by
  rw [grid, blocks, List.flatMap_map]

theorem map_slotBlock_keys {b : Board} (hkeys : b.keys.Nodup) :
    (Grid.ofKeys b.keys).slots.map (slotBlock b) = b.cards.map cardBlock := by
  rw [Grid.ofKeys, List.map_map, Board.keys, List.map_map]
  refine List.map_congr_left fun c hc => ?_
  -- a card is found under its key
  rw [Function.comp_apply, Function.comp_apply, slotBlock, Board.card?_of_mem hkeys hc]

/-- With nothing open, the grid shows the cards in their order. -/
theorem blocks_of_idle {b : Board} (h : b.Idle) (hkeys : b.keys.Nodup) :
    blocks b = b.cards.map cardBlock := by
  rw [blocks, h.grid, map_slotBlock_keys hkeys]

/-- With a card open, the panel stands in its slot among the cards. -/
theorem blocks_of_shows {b : Board} {c : Card} (h : b.Shows c) (hkeys : b.keys.Nodup) :
    ∃ slot ≤ b.cards.length, b.grid.detailSlot? = some slot ∧
      blocks b = (b.cards.map cardBlock).insertIdx slot (panelBlock (.ofCard c)) := by
  obtain ⟨slot, hslot, hgrid⟩ := h.grid
  refine ⟨slot, by rwa [Board.keys, List.length_map] at hslot, ?_, ?_⟩
  · rw [hgrid, Grid.detailSlot?_insertDetail hslot]
  · rw [blocks, hgrid, Grid.insertDetail, List.map_insertIdx, map_slotBlock_keys hkeys,
      slotBlock, h.panel]

/-! ## Boards of one form -/

theorem skeleton_cards_eq {cards cards' : List Card}
    (h : cards.map Card.form = cards'.map Card.form) :
    (cards.map cardBlock).map skeleton = (cards'.map cardBlock).map skeleton := by
  -- the markup of a block is a function of the form
  have hfactors : (skeleton ∘ cardBlock).FactorsThrough Card.form :=
    fun _ _ hform => skeleton_cardBlock_congr hform
  obtain ⟨markup, hmarkup⟩ := (Function.factorsThrough_iff _).mp hfactors
  rw [List.map_map, List.map_map, hmarkup, ← List.map_map, h, List.map_map]

theorem skeleton_blocks_eq {b b' : Board} (h : b.Consistent) (h' : b'.Consistent)
    (hform : b.SameForm b') : (blocks b).map skeleton = (blocks b').map skeleton := by
  obtain hidle | ⟨c, hc⟩ := h.layout <;> obtain hidle' | ⟨c', hc'⟩ := h'.layout
  · rw [blocks_of_idle hidle h.keys_nodup, blocks_of_idle hidle' h'.keys_nodup]
    exact skeleton_cards_eq hform.cards
  -- if one board has a panel, then so has the other
  · have hpanel := hform.panel
    rw [hidle.panel, hc'.panel] at hpanel
    cases hpanel
  · have hpanel := hform.panel
    rw [hc.panel, hidle'.panel] at hpanel
    cases hpanel
  -- the panels stand in one slot, which the form tells, and both are visible
  · obtain ⟨slot, _, hslot, hblocks⟩ := blocks_of_shows hc h.keys_nodup
    obtain ⟨slot', _, hslot', hblocks'⟩ := blocks_of_shows hc' h'.keys_nodup
    have heq : slot = slot' := by
      rw [Grid.detailSlot?_eq, hform.slots, ← Grid.detailSlot?_eq, hslot'] at hslot
      exact (Option.some.inj hslot).symm
    have hpanel : skeleton (panelBlock (.ofCard c)) = skeleton (panelBlock (.ofCard c')) :=
      skeleton_panelBlock_congr rfl
    rw [hblocks, hblocks', List.map_insertIdx, List.map_insertIdx, skeleton_cards_eq hform.cards,
      heq, hpanel]

theorem skeleton_grid_eq {b b' : Board} (h : b.Consistent) (h' : b'.Consistent)
    (hform : b.SameForm b') : skeleton (grid b) = skeleton (grid b') := by
  have hgrid (b : Board) : skeleton (grid b) =
      ((blocks b).map skeleton).flatMap fun block => block ++ [some "\n"] := by
    -- the line break behind a block is markup
    rw [grid_eq, skeleton, List.map_flatMap, List.flatMap_map]
    refine List.flatMap_congr fun block _ => ?_
    rw [List.map_append]
    rfl
  rw [hgrid, hgrid, skeleton_blocks_eq h h' hform]

theorem skeleton_banner_congr {message message' : Option String}
    (h : message.isSome = message'.isSome) :
    skeleton (banner message) = skeleton (banner message') := by
  cases message <;> cases message' <;> first | rfl | cases h

/-! ## The main statement -/

/-- Two pages that look the same once all texts are covered are put together from the same markup
and have the same marks. These are the marks of that markup, so no text brings a mark to the page. -/
theorem marks_document_eq {board board' : Option Board} {message message' : Option String}
    (hboard : Option.Rel Board.SameForm board board')
    (hmessage : message.isSome = message'.isSome)
    (hreachable : ∀ b, board = some b ∨ board' = some b → b.Reachable) :
    skeleton (document board message) = skeleton (document board' message') ∧
    marks (document board message).render = marks (document board' message').render ∧
    marks (document board message).render =
      ((document board message).filterMap Piece.source?).flatMap marks := by
  have hskeleton : skeleton (document board message) = skeleton (document board' message') := by
    -- head, script and frame are the same on all pages
    have hgrid : skeleton (boardGrid board) = skeleton (boardGrid board') := by
      cases hboard with
      | none => rfl
      | some hform =>
        exact skeleton_grid_eq (hreachable _ (Or.inl rfl)).consistent
          (hreachable _ (Or.inr rfl)).consistent hform
    simp only [document, skeleton_append, hgrid, skeleton_banner_congr hmessage]
  exact ⟨hskeleton, marks_eq_of_skeleton_eq hskeleton, marks_render _⟩

/-- A porch whose names and values would all like to be markup. -/
def scribbled : Gateway where
  devices := .ok ["\"><script>"]
  sensors _ := .ok [".3303.<b>", ".1024.&lt;", ".3304.\" x=\""]
  value _ _ := .ok ⟨none, .text "</h2><h1>&quot;"⟩
  history _ _ := .ok []

/-- The page of a porch whose thermometer is open with its chart has the marks of the page of the
scribbled porch, where the history is still awaited. -/
theorem marks_document_eq_scribbled :
    let actions (key : CardKey) := [Board.Action.toggle key ⟨1200.0, 300.0⟩]
    let board := (Board.ofDashboard Survey.porchDashboard).run
      (actions ⟨"porch", ".3303.0"⟩ ++ [.deliver ⟨⟨"porch", ".3303.0"⟩, "", 1⟩ (.ok [])])
    ∃ d, (Survey.run .builtin scribbled).result = .ok d ∧
      let board' := (Board.ofDashboard d).run (actions ⟨"\"><script>", ".3303.<b>"⟩)
      board.panel.map (fun p => p.chart.isSome) = some true ∧
      board'.panel.map (fun p => p.chart.isSome) = some false ∧
      marks (document (some board) (some "late")).render =
        marks (document (some board') (some "</div><script>")).render := by
  intro actions board
  refine ⟨_, rfl, rfl, rfl, ?_⟩
  have hmessage : (some "late").isSome = (some "</div><script>").isSome := rfl
  refine (marks_document_eq (.some ⟨?_, ?_, ?_⟩) hmessage ?_).2.1
  · rfl
  · rfl
  · rfl
  · rintro b (hb | hb) <;> obtain rfl := Option.some.inj hb
    · exact ⟨.builtin, Survey.porch, _, _, Survey.run_porch, rfl⟩
    · exact ⟨.builtin, scribbled, _, _, rfl, rfl⟩

end Page

end SensorBoard
