import SensorBoard.Card.Key
import SensorBoard.Grid.Placement

/-!
# The grid

The grid holds the cards in their flow, and in one slot among them the detail panel when a card is
open. Opening places the panel behind the last card of the row of the opened card, so that no row is
split.
-/

namespace SensorBoard

/-- What a slot of the grid holds. -/
inductive Slot where
  | card (key : CardKey)
  | detail
  deriving DecidableEq

/-- The slots in the order in which they are shown. -/
structure Grid where
  slots : List Slot

namespace Grid

/-- The grid of some cards, without a panel. -/
def ofKeys (keys : List CardKey) : Grid := ⟨keys.map Slot.card⟩

def size (g : Grid) : Nat := g.slots.length

/-- The first slot that holds the card. -/
def position? (g : Grid) (key : CardKey) : Option Nat := g.slots.idxOf? (.card key)

def detailSlot? (g : Grid) : Option Nat := g.slots.idxOf? .detail

def withoutDetail (g : Grid) : Grid := ⟨g.slots.filter fun s => s != .detail⟩

/-- Puts the panel into a slot, in front of what is there. -/
def insertDetail (g : Grid) (slot : Nat) : Grid := ⟨g.slots.insertIdx slot .detail⟩

/-- Places the panel for a click on a card, and says where; an old panel goes in any case. -/
def openDetail (g : Grid) (key : CardKey) (metrics : Metrics) : Grid × Option (Placement × Nat) :=
  -- the old panel is no sibling, so it goes before anything is counted
  let cleared := g.withoutDetail
  match cleared.position? key with
  | none => (cleared, none)
  | some index =>
    let placement : Placement := ⟨metrics, index⟩
    let slot := placement.anchor cleared.size + 1
    (cleared.insertDetail slot, some (placement, slot))

end Grid

end SensorBoard
