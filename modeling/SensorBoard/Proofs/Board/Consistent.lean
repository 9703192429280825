import Mathlib.Data.List.Nodup
import SensorBoard.Board
import SensorBoard.Proofs.Grid.Flow

/-!
# Consistent boards

A consistent board has one card a key, and it shows nothing or it shows one card: then that card
alone is open, the panel is its panel, and the grid holds the panel somewhere among the cards. Only
a card without a history waits for one, and a lamp is never open.

What can happen to a board keeps it consistent; that is for the steps to say.
-/

namespace SensorBoard

/-! ## Cards -/

/-- The panel that belongs to an open card. -/
def Panel.ofCard (c : Card) : Panel := ⟨c.key, true, c.chart?⟩

namespace Card

/-- The card with all that clicks and answers can change taken back. -/
def blank (c : Card) : Card :=
  { c with history := none, state := .closed, lamp := c.lamp.map fun _ => false }

/-- The card once the awaited answer has come: its points are kept, an error leaves the card open
without any. -/
def settle (answer : Except LookupError (List HistoryPoint)) (c : Card) : Card :=
  match answer with
  | .ok points => { c with history := some points, state := .opened }
  | .error _ => { c with state := .opened }

@[simp] theorem key_blank (c : Card) : c.blank.key = c.key := rfl

@[simp] theorem key_beginOpen (ticket : Nat) (c : Card) : (c.beginOpen ticket).key = c.key := rfl

@[simp] theorem key_settle (answer : Except LookupError (List HistoryPoint)) (c : Card) :
    (c.settle answer).key = c.key := by
  cases answer <;> rfl

@[simp] theorem isLamp_blank (c : Card) : c.blank.isLamp = c.isLamp := by
  rw [isLamp, blank, Option.isSome_map, isLamp]

@[simp] theorem isLamp_beginOpen (ticket : Nat) (c : Card) :
    (c.beginOpen ticket).isLamp = c.isLamp :=
  rfl

@[simp] theorem isLamp_settle (answer : Except LookupError (List HistoryPoint)) (c : Card) :
    (c.settle answer).isLamp = c.isLamp := by
  cases answer <;> rfl

@[simp] theorem blank_switch (c : Card) : c.switch.blank = c.blank := by
  cases hl : c.lamp <;> simp [blank, switch, hl]

@[simp] theorem blank_beginOpen (ticket : Nat) (c : Card) : (c.beginOpen ticket).blank = c.blank :=
  rfl

@[simp] theorem blank_settle (answer : Except LookupError (List HistoryPoint)) (c : Card) :
    (c.settle answer).blank = c.blank := by
  cases answer <;> rfl

@[simp] theorem isOpen_close (c : Card) : c.close.isOpen = false := rfl

@[simp] theorem isOpen_beginOpen (ticket : Nat) (c : Card) : (c.beginOpen ticket).isOpen = true := by
  rw [isOpen, beginOpen]
  cases c.history <;> rfl

@[simp] theorem isOpen_settle (answer : Except LookupError (List HistoryPoint)) (c : Card) :
    (c.settle answer).isOpen = true := by
  cases answer <;> rfl

theorem isOpen_eq_false_iff {c : Card} : c.isOpen = false ↔ c.state = .closed := by
  rw [isOpen, bne_eq_false_iff_eq]

theorem close_of_isOpen_eq_false {c : Card} (h : c.isOpen = false) : c.close = c := by
  rw [close, ← isOpen_eq_false_iff.mp h]

theorem isOpen_of_opening {c : Card} {ticket : Nat} (h : c.state = .opening ticket) :
    c.isOpen = true := by
  rw [isOpen, h]
  rfl

theorem isLamp_of_lamp_eq_some {c : Card} {on : Bool} (h : c.lamp = some on) : c.isLamp = true := by
  rw [isLamp, h]
  rfl

end Card

namespace Board

variable {b : Board}

/-! ## Cards and their keys -/

/-- The keys of the cards in their order. -/
def keys (b : Board) : List CardKey := b.cards.map Card.key

theorem mem_keys {key : CardKey} : key ∈ b.keys ↔ ∃ c ∈ b.cards, c.key = key := List.mem_map

theorem key_mem_keys {c : Card} (h : c ∈ b.cards) : c.key ∈ b.keys := mem_keys.mpr ⟨c, h, rfl⟩

theorem card?_eq_none_iff {key : CardKey} : b.card? key = none ↔ key ∉ b.keys := by
  simp [card?, mem_keys]

theorem mem_of_card? {key : CardKey} {c : Card} (h : b.card? key = some c) :
    c ∈ b.cards ∧ c.key = key :=
  ⟨List.mem_of_find?_eq_some h, by simpa using List.find?_some h⟩

/-- A key has one card. -/
theorem eq_of_key_eq (hkeys : b.keys.Nodup) {c c' : Card} (hc : c ∈ b.cards) (hc' : c' ∈ b.cards)
    (hkey : c.key = c'.key) : c = c' :=
  List.inj_on_of_nodup_map hkeys hc hc' hkey

theorem card?_of_mem (hkeys : b.keys.Nodup) {c : Card} (h : c ∈ b.cards) :
    b.card? c.key = some c := by
  cases hfind : b.card? c.key with
  | none => exact absurd (key_mem_keys h) (card?_eq_none_iff.mp hfind)
  | some c' =>
    obtain ⟨hmem, hkey⟩ := mem_of_card? hfind
    rw [eq_of_key_eq hkeys hmem h hkey]

@[simp] theorem keys_replaceCard (b : Board) (card : Card) : (b.replaceCard card).keys = b.keys := by
  rw [keys, keys, replaceCard, List.map_map]
  refine List.map_congr_left fun c _ => ?_
  by_cases hkey : c.key = card.key <;> simp [hkey]

theorem mem_replaceCard_iff {card c : Card} :
    c ∈ (b.replaceCard card).cards ↔
      (c = card ∧ card.key ∈ b.keys) ∨ (c ∈ b.cards ∧ c.key ≠ card.key) := by
  simp only [replaceCard, List.mem_map, mem_keys]
  constructor
  · -- what stands in the place of the card is the card, and all else is as it was
    rintro ⟨c₀, hmem, rfl⟩
    by_cases hkey : c₀.key = card.key
    · exact Or.inl ⟨by simp [hkey], c₀, hmem, hkey⟩
    · exact Or.inr (by simpa [hkey] using hmem)
  · rintro (⟨rfl, c₀, hmem, hkey⟩ | ⟨hmem, hkey⟩)
    · exact ⟨c₀, hmem, by simp [hkey]⟩
    · exact ⟨c, hmem, by simp [hkey]⟩

/-- The card is found under its key, and under any other key what was found before. -/
theorem card?_replaceCard (hkeys : b.keys.Nodup) {card : Card} (hmem : card.key ∈ b.keys) :
    (b.replaceCard card).card? card.key = some card ∧
      ∀ key, key ≠ card.key → (b.replaceCard card).card? key = b.card? key := by
  constructor
  · apply card?_of_mem
    · rwa [keys_replaceCard]
    · exact mem_replaceCard_iff.mpr (Or.inl ⟨rfl, hmem⟩)
  · intro key hne
    cases hfind : b.card? key with
    | none => rwa [card?_eq_none_iff, keys_replaceCard, ← card?_eq_none_iff]
    | some c =>
      obtain ⟨hc, rfl⟩ := mem_of_card? hfind
      apply card?_of_mem
      · rwa [keys_replaceCard]
      · exact mem_replaceCard_iff.mpr (Or.inr ⟨hc, hne⟩)

/-- What holds of the card and of all others before holds of every card afterwards. -/
theorem forall_mem_replaceCard {P : Card → Prop} {card : Card} (hcard : P card)
    (hothers : ∀ c ∈ b.cards, c.key ≠ card.key → P c) : ∀ c ∈ (b.replaceCard card).cards, P c := by
  intro c hc
  rcases mem_replaceCard_iff.mp hc with ⟨rfl, _⟩ | ⟨hc, hne⟩
  · exact hcard
  · exact hothers c hc hne

@[simp] theorem keys_cleared (b : Board) : b.cleared.keys = b.keys := by
  rw [keys, keys, cleared, List.map_map]
  rfl

/-- The cards as they were before any click or answer. -/
def blanks (b : Board) : List Card := b.cards.map Card.blank

@[simp] theorem blanks_cleared (b : Board) : b.cleared.blanks = b.blanks := by
  rw [blanks, blanks, cleared, List.map_map]
  rfl

/-- Putting a changed card back into its place changes nothing that the change does not. -/
theorem map_replaceCard {α : Type} {f : Card → α} (hkeys : b.keys.Nodup) {c card : Card}
    (hmem : c ∈ b.cards) (hkey : card.key = c.key) (hf : f card = f c) :
    (b.replaceCard card).cards.map f = b.cards.map f := by
  rw [replaceCard, List.map_map]
  refine List.map_congr_left fun c' hc' => ?_
  by_cases h : c'.key = card.key
  · -- it is the old card that is replaced here
    have heq : c' = c := eq_of_key_eq hkeys hc' hmem (h.trans hkey)
    simp [heq, hkey, hf]
  · simp [h]

theorem blanks_replaceCard (hkeys : b.keys.Nodup) {c card : Card} (hmem : c ∈ b.cards)
    (hblank : card.blank = c.blank) : (b.replaceCard card).blanks = b.blanks := by
  have hkey : card.key = c.key := by rw [← Card.key_blank, hblank, Card.key_blank]
  exact map_replaceCard hkeys hmem hkey hblank

theorem mem_cleared_iff {c : Card} : c ∈ b.cleared.cards ↔ ∃ c₀ ∈ b.cards, c₀.close = c := by
  rw [cleared, List.mem_map]

/-! ## Tickets -/

theorem ticketAfter_lt (ticket : Nat) : ticketAfter ticket < Decimal.wordSize :=
  Nat.mod_lt _ (by decide)

theorem ticketAfter_ne (ticket : Nat) : ticketAfter ticket ≠ ticket := by
  rw [ticketAfter, Decimal.wordSize]
  omega

/-! ## Consistent boards -/

/-- Nothing is shown: every card is closed and there is no panel. -/
structure Idle (b : Board) : Prop where
  grid : b.grid = .ofKeys b.keys
  panel : b.panel = none
  closed : ∀ c ∈ b.cards, c.isOpen = false

/-- The card is the open one, and the panel among the cards is its panel. -/
structure Shows (b : Board) (card : Card) : Prop where
  mem : card ∈ b.cards
  isOpen : card.isOpen = true
  others : ∀ c ∈ b.cards, c.key ≠ card.key → c.isOpen = false
  panel : b.panel = some (.ofCard card)
  grid : ∃ slot ≤ b.keys.length, b.grid = (Grid.ofKeys b.keys).insertDetail slot

/-- What holds of a board whatever has happened to it. -/
structure Consistent (b : Board) : Prop where
  keys_nodup : b.keys.Nodup
  lamps : ∀ c ∈ b.cards, c.isLamp = true → c.isOpen = false ∧ c.history = none
  word : b.nextTicket < Decimal.wordSize
  /-- A card waits with the ticket that was spent last. -/
  waiting : ∀ c ∈ b.cards, ∀ ticket, c.state = .opening ticket →
    c.history = none ∧ ticket < Decimal.wordSize ∧ ticketAfter ticket = b.nextTicket
  layout : b.Idle ∨ ∃ c, b.Shows c

theorem Consistent.keys_grid (h : b.Consistent) : b.grid.keys = b.keys := by
  obtain hidle | ⟨c, hc⟩ := h.layout
  · rw [hidle.grid, Grid.keys_ofKeys]
  · obtain ⟨slot, _, hgrid⟩ := hc.grid
    rw [hgrid, Grid.keys_insertDetail, Grid.keys_ofKeys]

theorem Consistent.shows_of_isOpen (h : b.Consistent) {c : Card} (hc : c ∈ b.cards)
    (hopen : c.isOpen = true) : b.Shows c := by
  obtain hidle | ⟨card, hcard⟩ := h.layout
  · exact absurd hopen (by simp [hidle.closed c hc])
  · have hkey : c.key = card.key := by
      by_contra hne
      exact absurd hopen (by simp [hcard.others c hc hne])
    exact eq_of_key_eq h.keys_nodup hc hcard.mem hkey ▸ hcard

theorem Shows.openCard? {card : Card} (h : b.Shows card) (hkeys : b.keys.Nodup) :
    b.openCard? = some card := by
  rw [Board.openCard?]
  cases hfind : b.cards.find? Card.isOpen with
  | none => exact absurd h.isOpen (List.find?_eq_none.mp hfind card h.mem)
  | some c =>
    -- the first open card is the one that is shown, since all others are closed
    have hmem := List.mem_of_find?_eq_some hfind
    have hopen : c.isOpen = true := List.find?_some hfind
    have hkey : c.key = card.key := by
      by_contra hne
      exact absurd hopen (by simp [h.others c hmem hne])
    rw [eq_of_key_eq hkeys hmem h.mem hkey]

theorem Idle.openCard? (h : b.Idle) : b.openCard? = none :=
  List.find?_eq_none.mpr fun c hc => by simp [h.closed c hc]

end Board

end SensorBoard
