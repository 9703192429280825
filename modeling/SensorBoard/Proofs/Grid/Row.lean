import SensorBoard.Proofs.Grid.Flow

/-!
# Rows

Whatever was done to a grid before, opening a card puts the panel behind the last card of the row of
that card, so that no row is split: in front of the panel stand the cards of that row and of the
rows above it, and behind the panel all others (`openDetail_behind_row`). The positions are reckoned
in words of 64 bits, and none of the sums and differences leaves them.
-/

namespace SensorBoard

/-! ## The end of a row -/

namespace Placement

/-- The place behind the row, or behind the last card of all if the row is not full. -/
theorem anchor_add_one {p : Placement} {siblings : Nat} (h : p.index < siblings) :
    p.anchor siblings + 1 = min siblings ((p.index / p.columns + 1) * p.columns) := by
  have hcolumns : 0 < p.columns := p.metrics.columns_pos
  have hoffset : p.offset < p.columns := Nat.mod_lt _ hcolumns
  -- the row begins so many places in front of the card as its offset says
  have hindex : p.index / p.columns * p.columns + p.offset = p.index := Nat.div_add_mod' ..
  have hend : (p.index / p.columns + 1) * p.columns = p.index + p.remaining + 1 := by
    rw [Nat.add_mul, remaining]
    omega
  rw [hend, anchor]
  omega

/-- The places in front of the end of a row are those of the row and of the rows above it. -/
theorem lt_row_end_iff {columns : Nat} (h : 0 < columns) (row j : Nat) :
    j < (row + 1) * columns ↔ j / columns ≤ row := by
  rw [← Nat.div_lt_iff_lt_mul h, Nat.lt_succ_iff]

/-! ## Words

The same numbers in words of 64 bits: a sum that is too large for a word has no value, nor has a
difference below zero or a remainder by zero. -/

namespace Word

def add? (a b : Nat) : Option Nat := if a + b < Decimal.wordSize then some (a + b) else none

def sub? (a b : Nat) : Option Nat := if b ≤ a then some (a - b) else none

def mod? (a b : Nat) : Option Nat := if b = 0 then none else some (a % b)

/-- The places to the right of a card in its row. -/
def remaining? (columns index : Nat) : Option Nat := do
  let offset ← mod? index columns
  sub? (← sub? columns offset) 1

/-- The position of the last card in the row; the number of cards that follow stops at zero. -/
def anchor? (columns index siblings : Nat) : Option Nat := do
  let next ← add? index 1
  let remaining ← remaining? columns index
  add? index (min remaining (siblings - next))

theorem add?_eq {a b : Nat} (h : a + b < Decimal.wordSize) : add? a b = some (a + b) := if_pos h

theorem sub?_eq {a b : Nat} (h : b ≤ a) : sub? a b = some (a - b) := if_pos h

theorem mod?_eq {a b : Nat} (h : 0 < b) : mod? a b = some (a % b) := if_neg (Nat.ne_of_gt h)

theorem remaining?_eq {columns : Nat} (h : 0 < columns) (index : Nat) :
    remaining? columns index = some (columns - index % columns - 1) := by
  have hoffset : index % columns < columns := Nat.mod_lt _ h
  have hrest : 1 ≤ columns - index % columns := Nat.sub_pos_of_lt hoffset
  simp only [remaining?, mod?_eq h, sub?_eq (Nat.le_of_lt hoffset), sub?_eq hrest,
    Option.bind_eq_bind, Option.bind_some]

theorem anchor?_eq {columns index siblings : Nat} (h : 0 < columns) (hindex : index < siblings)
    (hsiblings : siblings < Decimal.wordSize) :
    anchor? columns index siblings =
      some (index + min (columns - index % columns - 1) (siblings - (index + 1))) := by
  have hnext : index + 1 < Decimal.wordSize := Nat.lt_of_le_of_lt hindex hsiblings
  -- the anchor is a card, so it is a word if the number of cards is one
  have hlt : index + min (columns - index % columns - 1) (siblings - (index + 1)) <
      Decimal.wordSize := by omega
  simp only [anchor?, add?_eq hnext, remaining?_eq h, add?_eq hlt, Option.bind_eq_bind,
    Option.bind_some]

/-- The last row may be short, and there may be as many columns as a word can tell. -/
example : anchor? 4 8 10 = some 9 ∧ anchor? (Decimal.wordSize - 1) 5 12 = some 11 := by decide

end Word

end Placement

namespace Grid

/-! ## What is done to a grid -/

inductive Operation where
  | openDetail (key : CardKey) (metrics : Metrics)
  | removeDetail

def perform (g : Grid) : Operation → Grid
  | .openDetail key metrics => (g.openDetail key metrics).1
  | .removeDetail => g.withoutDetail

/-- The grid after operations one after the other. -/
def run (g : Grid) (operations : List Operation) : Grid := operations.foldl perform g

/-- The cards of a flow, with the panel somewhere among them or without it. -/
inductive Holds (ks : List CardKey) : Grid → Prop where
  | bare : Holds ks (ofKeys ks)
  | detail {slot : Nat} (h : slot ≤ ks.length) : Holds ks ((ofKeys ks).insertDetail slot)

variable {ks : List CardKey} {g : Grid}

theorem Holds.keys_eq (h : Holds ks g) : g.keys = ks := by
  cases h with
  | bare => exact keys_ofKeys ks
  | detail _ => rw [keys_insertDetail, keys_ofKeys]

theorem Holds.detailCount_le (h : Holds ks g) : g.detailCount ≤ 1 := by
  cases h with
  | bare => simp
  | detail hslot =>
    have hcount := detailCount_insertDetail ((size_ofKeys ks).symm ▸ hslot)
    rw [detailCount_ofKeys] at hcount
    exact Nat.le_of_eq hcount

/-- A click on a card that is not in the grid takes the panel away. -/
theorem openDetail_of_notMem {key : CardKey} (h : key ∉ g.keys) (metrics : Metrics) :
    g.openDetail key metrics = (ofKeys g.keys, none) := by
  have hposition : (ofKeys g.keys).position? key = none := by
    rw [position?, ofKeys, List.idxOf?_eq_none_iff]
    simpa using h
  rw [openDetail, withoutDetail_eq_ofKeys]
  simp only [hposition]

theorem Holds.perform (h : Holds ks g) (operation : Operation) :
    Holds ks (g.perform operation) := by
  cases operation with
  | removeDetail =>
    rw [Grid.perform, withoutDetail_eq_ofKeys, h.keys_eq]
    exact .bare
  | openDetail key metrics =>
    rw [Grid.perform]
    by_cases hkey : key ∈ g.keys
    · rw [openDetail_of_mem hkey, h.keys_eq]
      rw [h.keys_eq] at hkey
      exact .detail (slotIn_le hkey metrics)
    · rw [openDetail_of_notMem hkey, h.keys_eq]
      exact .bare

theorem Holds.run (h : Holds ks g) (operations : List Operation) : Holds ks (g.run operations) := by
  induction operations generalizing g with
  | nil => exact h
  | cons operation rest ih => exact ih (h.perform operation)

/-! ## Where the panel is -/

theorem slots_insertDetail {slot : Nat} (h : slot ≤ ks.length) :
    ((ofKeys ks).insertDetail slot).slots =
      (ks.take slot).map .card ++ .detail :: (ks.drop slot).map .card := by
  have hslots : slot ≤ (ks.map Slot.card).length := by rwa [List.length_map]
  rw [insertDetail, ofKeys, insertIdx_eq_take_append hslots, List.map_take, List.map_drop]

theorem slotIn_eq {key : CardKey} (h : key ∈ ks) (metrics : Metrics) :
    slotIn ks key metrics =
      min ks.length ((ks.idxOf key / metrics.columns + 1) * metrics.columns) :=
  Placement.anchor_add_one (p := placementIn ks key metrics) (List.idxOf_lt_length_of_mem h)

/-- The answer to a click on a card of the flow, and the grid that it leaves. -/
structure BehindRow (ks : List CardKey) (key : CardKey) (metrics : Metrics)
    (result : Grid × Option (Placement × Nat)) (slot : Nat) : Prop where
  slot_eq : slot = min ks.length ((ks.idxOf key / metrics.columns + 1) * metrics.columns)
  answer : ∃ placement : Placement, result.2 = some (placement, slot) ∧
    placement.metrics = metrics ∧ placement.columns = metrics.columns ∧
    placement.index = ks.idxOf key ∧ placement.offset = ks.idxOf key % metrics.columns
  detailSlot : result.1.detailSlot? = some slot
  slots : result.1.slots = (ks.take slot).map .card ++ .detail :: (ks.drop slot).map .card
  /-- The cards in front of the panel are those of the row and of the rows above it. -/
  row : ∀ j < ks.length, j < slot ↔ j / metrics.columns ≤ ks.idxOf key / metrics.columns

theorem behindRow_of_mem {key : CardKey} (h : key ∈ g.keys) (metrics : Metrics) :
    BehindRow g.keys key metrics (g.openDetail key metrics) (slotIn g.keys key metrics) := by
  have hslot := slotIn_le h metrics
  rw [openDetail_of_mem h]
  constructor
  · exact slotIn_eq h metrics
  · exact ⟨placementIn g.keys key metrics, rfl, rfl, rfl, rfl, rfl⟩
  · exact detailSlot?_insertDetail hslot
  · exact slots_insertDetail hslot
  · intro j hj
    rw [slotIn_eq h, Nat.lt_min, Placement.lt_row_end_iff metrics.columns_pos]
    exact and_iff_right hj

/-! ## The main statement -/

/-- After any operations on the grid of some cards, the cards stand in their flow with at most one
panel. Opening one of them then puts the panel behind its row, and opening any other card leaves no
panel. All of it can be reckoned in words of 64 bits, with any number of columns that is a word. -/
theorem openDetail_behind_row (ks : List CardKey) (operations : List Operation) :
    let g := (ofKeys ks).run operations
    g.withoutDetail.slots = ks.map .card ∧ g.detailCount ≤ 1 ∧
    (∀ key ∈ ks, ∀ metrics, ∃ slot, BehindRow ks key metrics (g.openDetail key metrics) slot) ∧
    (∀ key ∉ ks, ∀ metrics,
      (g.openDetail key metrics).2 = none ∧ (g.openDetail key metrics).1.detailSlot? = none) ∧
    (∀ columns index siblings, 0 < columns → columns < Decimal.wordSize → index < siblings →
      siblings < Decimal.wordSize →
        Placement.Word.remaining? columns index = some (columns - index % columns - 1) ∧
        Placement.Word.anchor? columns index siblings =
          some (index + min (columns - index % columns - 1) (siblings - (index + 1)))) ∧
    (∀ (p : Placement) (siblings : Nat), p.index < siblings → siblings < Decimal.wordSize →
      Placement.Word.remaining? p.columns p.index = some p.remaining ∧
        Placement.Word.anchor? p.columns p.index siblings = some (p.anchor siblings)) := by
  intro g
  have hholds : Holds ks g := Holds.bare.run operations
  have hkeys := hholds.keys_eq
  refine ⟨?_, hholds.detailCount_le, ?_, ?_, ?_, ?_⟩
  · rw [withoutDetail_eq_ofKeys, hkeys]
    rfl
  · intro key hkey metrics
    have hbehind := behindRow_of_mem (hkeys.symm ▸ hkey : key ∈ g.keys) metrics
    rw [hkeys] at hbehind
    exact ⟨_, hbehind⟩
  · intro key hkey metrics
    rw [openDetail_of_notMem (hkeys.symm ▸ hkey : key ∉ g.keys)]
    exact ⟨rfl, List.idxOf?_eq_none_iff.mpr (detail_notMem_ofKeys _)⟩
  · intro columns index siblings hcolumns _ hindex hsiblings
    exact ⟨Placement.Word.remaining?_eq hcolumns index,
      Placement.Word.anchor?_eq hcolumns hindex hsiblings⟩
  · intro p siblings hindex hsiblings
    have hcolumns : 0 < p.columns := p.metrics.columns_pos
    exact ⟨Placement.Word.remaining?_eq hcolumns p.index,
      Placement.Word.anchor?_eq hcolumns hindex hsiblings⟩

end Grid

end SensorBoard
