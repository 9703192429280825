import SensorBoard.Proofs.Board.Panel
import SensorBoard.Proofs.Decimal.Shortest
import SensorBoard.Proofs.Json.Told
import SensorBoard.Proofs.Page.Form
import SensorBoard.Proofs.Page.Tag

/-!
# The grid, read back

What a reader finds in the grid of a board. The block of a card and that of a panel are tags that
are written with their texts escaped (`render_cardBlock`, `render_panelBlock`), so the texts are
read back as they are on the board (`cardShown`, `panelShown`), and the value is what was read or
how a lamp was switched (`showsReading_display`). The grid of every board that comes from a survey
is the blocks of its cards in their order, each on a line, and if a card is not closed, the block of
its panel stands among them (`grid_shows_cards`).
-/

namespace SensorBoard.Page

/-! ## The tags of a block -/

/-- The tags of the block of a card. -/
def cardTags (c : Card) : List Tag :=
  let divs (classes : String) : Tag := ⟨"div", [("class", classes)], ""⟩
  let close (name : String) : Tag := ⟨name, [], ""⟩
  [⟨"div", [("class", wrapperClasses c), ("data-device", c.device),
     ("data-sensor", c.sensor.id.raw)], ""⟩,
   divs (innerClasses c), divs "i-card-heading",
   ⟨"h1", [("class", "h4 i-card-heading-text")], c.heading⟩, close "/h1", close "/div",
   divs "i-card-logo",
   ⟨"i", [("class", "fa " ++ icon c.sensor.quantity ++ " i-card-logo-icon")], ""⟩, close "/i",
   close "/div", divs "i-card-content", divs "sensor-value",
   ⟨"h2", [], c.display⟩, close "/h2", ⟨"h3", [], c.units⟩, close "/h3",
   close "/div", close "/div", close "/div", close "/div"]

/-- The tags of the block of a panel. -/
def panelTags (p : Panel) : List Tag :=
  let divs (classes : String) : Tag := ⟨"div", [("class", classes)], ""⟩
  let close (name : String) : Tag := ⟨name, [], ""⟩
  [⟨"div", ("class", "col-12 col-md-12 col-sm-12") ::
      if p.visible then [] else [("style", "display: none;")], ""⟩,
   divs "i-card i-details-card p-3",
   ⟨"canvas", [("class", "param-chart"), ("data-chart", chartText p.chart)], ""⟩,
   close "/canvas", close "/div", close "/div"]

theorem escape_wrapperClasses (c : Card) : Entity.escape (wrapperClasses c) = wrapperClasses c := by
  unfold wrapperClasses
  cases c.isLamp <;> cases c.isOpen <;> decide +kernel

theorem escape_innerClasses (c : Card) : Entity.escape (innerClasses c) = innerClasses c := by
  unfold innerClasses
  cases c.isLamp <;> decide +kernel

theorem escape_iconClasses (q : Quantity) :
    Entity.escape ("fa " ++ icon q ++ " i-card-logo-icon") =
      "fa " ++ icon q ++ " i-card-logo-icon" := by
  cases q <;> decide +kernel

/-- The words of the page's own inside tags need no entity. -/
theorem escape_words : ∀ word ∈ ["", "i-card-heading", "h4 i-card-heading-text", "i-card-logo",
    "i-card-content", "sensor-value", "col-12 col-md-12 col-sm-12", "display: none;",
    "i-card i-details-card p-3", "param-chart"], Entity.escape word = word := by
  decide +kernel

theorem render_cardBlock (c : Card) :
    (cardBlock c).render = String.ofList (Tag.print (cardTags c)) := by
  have hwords := escape_words
  simp only [List.forall_mem_cons] at hwords
  rw [String.ext_iff, String.toList_ofList]
  simp only [cardBlock, Markup.render, Piece.render, cardTags, Tag.print, Tag.body, Tag.inside,
    Tag.attributeChars, escape_wrapperClasses, escape_innerClasses, escape_iconClasses, hwords,
    List.map_cons, List.map_nil, List.flatMap_cons, List.flatMap_nil, List.append_assoc,
    List.cons_append, List.nil_append, List.append_nil, String.toList_join, String.toList_append,
    String.reduceToList]

theorem render_panelBlock (p : Panel) :
    (panelBlock p).render = String.ofList (Tag.print (panelTags p)) := by
  have hwords := escape_words
  simp only [List.forall_mem_cons] at hwords
  rw [String.ext_iff, String.toList_ofList]
  -- only a hidden panel has a style
  cases hvisible : p.visible <;>
    simp only [panelBlock, hvisible, Bool.false_eq_true, if_true, if_false, Markup.render,
      Piece.render, panelTags, Tag.print, Tag.body, Tag.inside, Tag.attributeChars, hwords,
      List.map_cons, List.map_nil, List.flatMap_cons, List.flatMap_nil, List.append_assoc,
      List.cons_append, List.nil_append, List.append_nil, String.toList_join, String.toList_append,
      String.reduceToList]

/-! ## Lines -/

/-- Texts on lines of their own. -/
def lines (texts : List String) : String := String.join (texts.map (· ++ "\n"))

theorem render_append (page page' : Markup) :
    Markup.render (page ++ page') = page.render ++ page'.render := by
  rw [Markup.render, List.map_append, String.join_append]
  rfl

theorem render_grid (b : Board) : (grid b).render = lines ((blocks b).map Markup.render) := by
  rw [grid_eq]
  -- the blocks are rendered one by one, each with its line break
  induction blocks b with
  | nil => rfl
  | cons block rest ih =>
    rw [List.flatMap_cons, render_append, render_append, ih, List.map_cons, lines, lines,
      List.map_cons, String.join_cons]
    rfl

/-! ## Marked cards -/

/-- Is the outer element of the block of the class? -/
def isMarked (name : String) (tags : List Tag) : Bool :=
  (Tag.attribute? "class" tags).any fun classes => (Text.split ' ' classes).contains name

theorem isMarked_cardTags (c : Card) :
    isMarked "i-card-details-open" (cardTags c) = (!c.isLamp && c.isOpen) ∧
      isMarked "i-card-details-hide" (cardTags c) = (!c.isLamp && !c.isOpen) := by
  have hclasses : Tag.attribute? "class" (cardTags c) = some (wrapperClasses c) := rfl
  have hmarked (name : String) :
      isMarked name (cardTags c) = (Text.split ' ' (wrapperClasses c)).contains name := by
    rw [isMarked, hclasses]
    rfl
  rw [hmarked, hmarked]
  unfold wrapperClasses
  cases c.isLamp <;> cases c.isOpen <;> decide +kernel

/-- The open card owns the panel, and no other card does. -/
theorem isOpen_iff_owner {b : Board} (h : b.Consistent) {c : Card} (hc : c ∈ b.cards) :
    c.isOpen = true ↔ b.panel.map Panel.owner = some c.key := by
  obtain hidle | ⟨card, hcard⟩ := h.layout
  · simp [hidle.closed c hc, hidle.panel]
  · rw [hcard.panel, Option.map_some, Option.some.injEq]
    constructor
    · intro hopen
      rw [hcard.eq_of_isOpen h.keys_nodup hc hopen]
      rfl
    · intro hkey
      rw [← Board.eq_of_key_eq h.keys_nodup hcard.mem hc hkey]
      exact hcard.isOpen

/-! ## Blocks that are read -/

/-- A value and a text that shows it. -/
inductive ShowsValue : SensorValue → String → Prop where
  | number {x : Float} {text : String} (h : Decimal.ShowsDouble x text) :
      ShowsValue (.number x) text
  | on : ShowsValue (.flag true) "ON"
  | off : ShowsValue (.flag false) "OFF"
  | text (s : String) : ShowsValue (.text s) s

/-- A lamp shows how it was switched last, and any other card shows what was read. -/
inductive ShowsReading (c : Card) : String → Prop where
  | on (h : c.lamp = some true) : ShowsReading c "ON"
  | off (h : c.lamp = some false) : ShowsReading c "OFF"
  | value {text : String} (hlamp : c.lamp = none) (h : ShowsValue c.sensor.value text) :
      ShowsReading c text

theorem showsValue_display (v : SensorValue) : ShowsValue v v.display := by
  cases v with
  | number x => exact .number (Decimal.showsDouble_text x)
  | flag b =>
    cases b with
    | true => exact .on
    | false => exact .off
  | text s => exact .text s

theorem showsReading_display (c : Card) : ShowsReading c c.display := by
  unfold Card.display
  split
  next hon => exact .on hon
  next hoff => exact .off hoff
  next hlamp => exact .value hlamp (showsValue_display c.sensor.value)

/-- The block shows the card as it is on the board. -/
structure CardShown (b : Board) (c : Card) (block : String) : Prop where
  nonempty : block ≠ ""
  device : Tag.attribute? "data-device" (Tag.read block) = some c.device
  sensor : Tag.attribute? "data-sensor" (Tag.read block) = some c.sensor.id.raw
  resource : Tag.textBehind? "h1" (Tag.read block) = some c.sensor.resource
  value : Tag.textBehind? "h2" (Tag.read block) = some c.display
  reading : ShowsReading c c.display
  units : Tag.textBehind? "h3" (Tag.read block) = some c.units
  marked_open : isMarked "i-card-details-open" (Tag.read block) = true ↔
    b.panel.map Panel.owner = some c.key
  marked_hide : isMarked "i-card-details-hide" (Tag.read block) = true ↔
    c.isLamp = false ∧ b.panel.map Panel.owner ≠ some c.key
  /-- A lamp is marked in neither way. -/
  lamp : c.isLamp = true → isMarked "i-card-details-open" (Tag.read block) = false ∧
    isMarked "i-card-details-hide" (Tag.read block) = false

/-- The block shows the panel of the card. -/
structure PanelShown (c : Card) (block : String) : Prop where
  nonempty : block ≠ ""
  visible : Tag.attribute? "style" (Tag.read block) = none
  chart : Tag.attribute? "data-chart" (Tag.read block) = some
    (match c.chart? with
      | some chart => chart.toJson.render
      | none => "")
  told : ∀ chart, c.chart? = some chart → chart.toJson.TellsChart chart

theorem ne_empty_of_read {block : String} (h : Tag.read block ≠ []) : block ≠ "" := by
  rintro rfl
  exact h rfl

theorem isName_words : ∀ name ∈ ["div", "/div", "h1", "/h1", "h2", "/h2", "h3", "/h3", "i", "/i",
    "canvas", "/canvas", "class", "style", "data-device", "data-sensor", "data-chart"],
    Tag.isName name = true := by
  decide +kernel

theorem read_cardBlock (c : Card) : Tag.read (cardBlock c).render = cardTags c := by
  have hnames := isName_words
  simp only [List.forall_mem_cons] at hnames
  rw [render_cardBlock]
  exact Tag.read_print (by simp [cardTags, Tag.isNamed, hnames])

theorem read_panelBlock (p : Panel) : Tag.read (panelBlock p).render = panelTags p := by
  have hnames := isName_words
  simp only [List.forall_mem_cons] at hnames
  rw [render_panelBlock]
  refine Tag.read_print ?_
  cases hvisible : p.visible <;> simp [panelTags, Tag.isNamed, hnames, hvisible]

theorem cardShown {b : Board} (h : b.Consistent) {c : Card} (hc : c ∈ b.cards) :
    CardShown b c (cardBlock c).render := by
  have hread := read_cardBlock c
  obtain ⟨hopen, hhide⟩ := isMarked_cardTags c
  have howner := isOpen_iff_owner h hc
  constructor
  · exact ne_empty_of_read (hread ▸ List.cons_ne_nil _ _)
  · rw [hread]; rfl
  · rw [hread]; rfl
  · rw [hread]; rfl
  · rw [hread]; rfl
  · exact showsReading_display c
  · rw [hread]; rfl
  · -- what is open is no lamp
    rw [hread, hopen, ← howner, Bool.and_eq_true, and_iff_right_iff_imp, Bool.not_eq_true']
    intro hisOpen
    rw [← Bool.not_eq_true]
    intro hlamp
    rw [(h.lamps c hc hlamp).1] at hisOpen
    cases hisOpen
  · rw [hread, hhide, Ne, ← howner, Bool.and_eq_true, Bool.not_eq_true', Bool.not_eq_true',
      Bool.not_eq_true]
  · intro hlamp
    rw [hread, hopen, hhide, hlamp]
    exact ⟨rfl, rfl⟩

theorem panelShown (c : Card) : PanelShown c (panelBlock (.ofCard c)).render := by
  have hread := read_panelBlock (.ofCard c)
  constructor
  · exact ne_empty_of_read (hread ▸ List.cons_ne_nil _ _)
  · rw [hread]; rfl
  · have hchart : Tag.attribute? "data-chart" (panelTags (.ofCard c)) = some (chartText c.chart?) :=
      rfl
    rw [hread, hchart]
    cases c.chart? <;> rfl
  · exact fun chart _ => Json.tellsChart_toJson chart

/-! ## The main statement -/

section Grid

variable {b : Board}

/-- The blocks of the cards in their order. -/
def cardBlocks (b : Board) : List String := (b.cards.map cardBlock).map Markup.render

theorem forall₂_cardShown (h : b.Consistent) :
    List.Forall₂ (CardShown b) b.cards (cardBlocks b) := by
  rw [cardBlocks, List.forall₂_map_right_iff, List.forall₂_map_right_iff, List.forall₂_same]
  exact fun c hc => cardShown h hc

theorem render_grid_of_closed (h : b.Consistent) (hclosed : ∀ c ∈ b.cards, c.state = .closed) :
    (grid b).render = lines (cardBlocks b) := by
  obtain hidle | ⟨card, hcard⟩ := h.layout
  · rw [render_grid, blocks_of_idle hidle h.keys_nodup, cardBlocks]
  · -- a card that is shown in the panel would be open
    have hisOpen := hcard.isOpen
    rw [Card.isOpen_eq_false_iff.mpr (hclosed card hcard.mem)] at hisOpen
    cases hisOpen

theorem render_grid_of_shows {c : Card} (h : b.Shows c) (hkeys : b.keys.Nodup) :
    ∃ slot ≤ b.cards.length, b.grid.detailSlot? = some slot ∧ (grid b).render =
      lines ((cardBlocks b).take slot ++
        (panelBlock (.ofCard c)).render :: (cardBlocks b).drop slot) := by
  obtain ⟨slot, hslot, hdetail, hblocks⟩ := blocks_of_shows h hkeys
  refine ⟨slot, hslot, hdetail, ?_⟩
  rw [render_grid, hblocks, insertIdx_eq_take_append (by rwa [List.length_map]), List.map_append,
    List.map_cons, List.map_take, List.map_drop, cardBlocks]

end Grid

/-- On every board that comes from a survey, the grid is one block for each card in the order of the
cards, each followed by a line break, and every block shows its card. With all cards closed there is
nothing else. Else the card that is not closed owns the panel, and the block that shows its chart
stands behind as many blocks as the slot of the panel says. -/
theorem grid_shows_cards {rules : RuleTable} {gateway : Gateway} {d : Dashboard}
    (hsurvey : (Survey.run rules gateway).result = .ok d) (actions : List Board.Action) :
    let b := (Board.ofDashboard d).run actions
    ∃ texts : List String, List.Forall₂ (CardShown b) b.cards texts ∧
      ((∀ c ∈ b.cards, c.state = .closed) → (grid b).render = lines texts) ∧
      ∀ c ∈ b.cards, c.state ≠ .closed → b.panel.map Panel.owner = some c.key ∧
        ∃ slot ≤ b.cards.length, b.grid.detailSlot? = some slot ∧
          ∃ panel, PanelShown c panel ∧
            (grid b).render = lines (texts.take slot ++ panel :: texts.drop slot) := by
  intro b
  have h : b.Consistent := Board.run_consistent (Survey.fresh_of_run hsurvey) actions
  refine ⟨cardBlocks b, forall₂_cardShown h, render_grid_of_closed h, fun c hc hstate => ?_⟩
  have hopen : c.isOpen = true := Board.isOpen_iff.mpr hstate
  obtain ⟨slot, hslot, hdetail, hrender⟩ :=
    render_grid_of_shows (h.shows_of_isOpen hc hopen) h.keys_nodup
  exact ⟨(isOpen_iff_owner h hc).mp hopen, slot, hslot, hdetail, _, panelShown c, hrender⟩

/-- In the cellar the thermometer is opened on a narrow screen, and its history comes: the panel
stands behind the first card, with the chart for the browser to read. -/
theorem grid_shows_cards_cellar :
    let key : CardKey := ⟨"cellar", ".3303.0"⟩
    let actions := [.toggle key ⟨300.0, 300.0⟩,
      .deliver ⟨key, ".3303.0.5700", 1⟩ (.ok [⟨1000000, 20.5⟩, ⟨2000000, 21⟩])]
    let b := (Board.ofDashboard Survey.cellarDashboard).run actions
    (Survey.run .builtin Survey.cellar).result = .ok Survey.cellarDashboard ∧
      ∃ first second third panel, (grid b).render = lines [first, panel, second, third] ∧
        List.Forall₂ (CardShown b) b.cards [first, second, third] ∧
        [first, second, third].map (fun block => Tag.textBehind? "h2" (Tag.read block)) =
          [some "20.5", some "ON", some "-3"] ∧
        Tag.attribute? "data-chart" (Tag.read panel) = some
          ("\x7b\"label\":\"temperature\",\"units\":\"celsius\"," ++
            "\"series\":[[1000000,20.5],[2000000,21.0]]\x7d") := by
  intro key actions b
  obtain ⟨c, hc, hopened, hchart⟩ : ∃ c, b.cards[0]? = some c ∧ c.state = .opened ∧
      c.chart? = some ⟨"temperature", "celsius", [⟨1000000, 20.5⟩, ⟨2000000, 21⟩]⟩ :=
    ⟨_, rfl, rfl, rfl⟩
  obtain ⟨texts, htexts, _, hpanels⟩ := grid_shows_cards Survey.run_cellar actions
  obtain ⟨_, slot, _, hslot, panel, hpanel, hrender⟩ :=
    hpanels c (List.mem_of_getElem? hc) (by rw [hopened]; decide)
  have hfirst : b.grid.detailSlot? = some 1 := by decide +kernel
  obtain rfl : slot = 1 := Option.some.inj (hslot.symm.trans hfirst)
  have hthree : texts.length = 3 := htexts.length_eq.symm
  obtain ⟨first, second, third, rfl⟩ := List.length_eq_three.mp hthree
  have hdisplay : b.cards.map (fun c => some c.display) =
      [some "20.5", some "ON", some "-3"] := by
    decide +kernel
  have hvalues : b.cards.map (fun c => some c.display) =
      [first, second, third].map fun block => Tag.textBehind? "h2" (Tag.read block) := by
    rw [← List.forall₂_eq_eq_eq, List.forall₂_map_left_iff, List.forall₂_map_right_iff]
    exact htexts.imp fun _ _ hshown => hshown.value.symm
  refine ⟨Survey.run_cellar, first, second, third, panel, hrender, htexts, ?_, ?_⟩
  · exact hvalues.symm.trans hdisplay
  · rw [hpanel.chart, hchart]
    decide +kernel

end SensorBoard.Page
