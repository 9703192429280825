import SensorBoard.Decimal.Word
import SensorBoard.Json.Basic

/-!
# Placements

Cards wrap into rows. The number of columns comes from the widths measured when a card was clicked,
and the panel of the card belongs behind the last card of its row.
-/

namespace SensorBoard

/-- The widths of the grid and of one card, as measured in the browser. -/
structure Metrics where
  containerWidth : Float
  cardWidth : Float

namespace Metrics

/-- Can anything be laid out with the widths? Both have to be finite and positive. -/
def isUsable (m : Metrics) : Bool :=
  m.containerWidth.isFinite && m.cardWidth.isFinite &&
    !(m.containerWidth <= 0.0) && !(m.cardWidth <= 0.0)

/-- The number of whole cards beside each other, at least one and at most a word of 64 bits; one
where the widths are of no use. -/
def columns (m : Metrics) : Nat :=
  if m.isUsable then max 1 (m.containerWidth / m.cardWidth).toUInt64.toNat else 1

theorem columns_pos (m : Metrics) : 0 < m.columns := by
  unfold columns
  split <;> omega

/-- The number of columns fits 64 bits. -/
theorem columns_lt (m : Metrics) : m.columns < Decimal.wordSize := by
  have h := (m.containerWidth / m.cardWidth).toUInt64.toNat_lt
  unfold columns Decimal.wordSize
  split <;> omega

end Metrics

/-- Where a card stands among the others. -/
structure Placement where
  metrics : Metrics
  /-- The position of the card in the flow of cards. -/
  index : Nat

namespace Placement

def columns (p : Placement) : Nat := p.metrics.columns

/-- The number of cards to the left of the card in its row. -/
def offset (p : Placement) : Nat := p.index % p.columns

/-- The number of places to the right of the card in its row. -/
def remaining (p : Placement) : Nat := p.columns - p.offset - 1

/-- The position of the last card in the row, when there are so many cards in all. -/
def anchor (p : Placement) (siblings : Nat) : Nat :=
  p.index + min p.remaining (siblings - (p.index + 1))

def toJson (p : Placement) : Json :=
  .object [("container_width_px", .double p.metrics.containerWidth),
    ("card_width_px", .double p.metrics.cardWidth), ("columns_per_row", .nat p.columns),
    ("card_index_in_flow", .nat p.index), ("column_offset_in_row", .nat p.offset)]

end Placement

end SensorBoard
