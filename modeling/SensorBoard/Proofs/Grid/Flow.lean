import Mathlib.Data.List.InsertIdx
import SensorBoard.Grid.Basic

/-!
# The flow of a grid

Whatever was opened in a grid before, the slots without the panel are the cards in their flow.
Opening one of the cards of the flow puts the panel somewhere behind it, at the latest behind the
last card.
-/

namespace SensorBoard

/-- What is inserted stands between the elements in front of its slot and those behind it. -/
theorem insertIdx_eq_take_append {α : Type} {l : List α} {slot : Nat} (h : slot ≤ l.length)
    (a : α) : l.insertIdx slot a = l.take slot ++ a :: l.drop slot := by
  induction l generalizing slot with
  | nil =>
    obtain rfl := Nat.le_zero.mp h
    rfl
  | cons x rest ih =>
    cases slot with
    | zero => rfl
    | succ slot =>
      rw [List.insertIdx_succ_cons, ih (Nat.le_of_succ_le_succ h), List.take_succ_cons,
        List.drop_succ_cons, List.cons_append]

namespace Slot

/-- The card that a slot holds. -/
def key? : Slot → Option CardKey
  | card key => some key
  | detail => none

end Slot

namespace Grid

/-- The keys of the cards in the order of their slots. -/
def keys (g : Grid) : List CardKey := g.slots.filterMap Slot.key?

/-- The number of slots that hold the panel. -/
def detailCount (g : Grid) : Nat := g.slots.count .detail

/-! ## Grids without a panel -/

@[simp] theorem keys_ofKeys (ks : List CardKey) : (ofKeys ks).keys = ks := by
  rw [keys, ofKeys, List.filterMap_map]
  exact List.filterMap_some

@[simp] theorem size_ofKeys (ks : List CardKey) : (ofKeys ks).size = ks.length :=
  List.length_map ..

theorem detail_notMem_ofKeys (ks : List CardKey) : Slot.detail ∉ (ofKeys ks).slots := by
  simp [ofKeys]

@[simp] theorem detailCount_ofKeys (ks : List CardKey) : (ofKeys ks).detailCount = 0 :=
  List.count_eq_zero.mpr (detail_notMem_ofKeys ks)

/-- The slots without the panel are the cards in their flow. -/
theorem withoutDetail_eq_ofKeys (g : Grid) : g.withoutDetail = ofKeys g.keys := by
  obtain ⟨slots⟩ := g
  simp only [withoutDetail, ofKeys, keys, mk.injEq]
  induction slots with
  | nil => rfl
  | cons s rest ih => cases s <;> simp [List.filterMap_cons, Slot.key?, ih]

theorem position?_ofKeys {ks : List CardKey} {key : CardKey} (h : key ∈ ks) :
    (ofKeys ks).position? key = some (ks.idxOf key) := by
  rw [position?, ofKeys]
  induction ks with
  | nil => cases h
  | cons k rest ih =>
    rw [List.map_cons, List.idxOf?_cons, List.idxOf_cons, cond_eq_ite]
    by_cases hk : k = key
    · simp [hk]
    · have hmem : key ∈ rest := (List.mem_cons.mp h).resolve_left (Ne.symm hk)
      simp [hk, ih hmem]

/-! ## The panel among the cards -/

@[simp] theorem keys_insertDetail (g : Grid) (slot : Nat) : (g.insertDetail slot).keys = g.keys := by
  obtain ⟨slots⟩ := g
  simp only [keys, insertDetail]
  induction slots generalizing slot with
  | nil => cases slot <;> simp [Slot.key?]
  | cons s rest ih => cases slot <;> simp [Slot.key?, List.filterMap_cons, ih]

theorem detailCount_insertDetail {g : Grid} {slot : Nat} (h : slot ≤ g.size) :
    (g.insertDetail slot).detailCount = g.detailCount + 1 := by
  have hperm := List.perm_insertIdx Slot.detail g.slots h
  rw [detailCount, insertDetail, hperm.count_eq, List.count_cons_self, detailCount]

theorem detailSlot?_insertDetail {ks : List CardKey} {slot : Nat} (h : slot ≤ ks.length) :
    ((ofKeys ks).insertDetail slot).detailSlot? = some slot := by
  -- there are only cards in front of the slot
  rw [detailSlot?, insertDetail, ofKeys]
  induction ks generalizing slot with
  | nil => obtain rfl := Nat.le_zero.mp h; rfl
  | cons k rest ih =>
    cases slot with
    | zero => rfl
    | succ slot =>
      rw [List.map_cons, List.insertIdx_succ_cons, List.idxOf?_cons, ih (Nat.le_of_succ_le_succ h)]
      rfl

end Grid

/-! ## Opening -/

theorem Placement.anchor_lt {p : Placement} {siblings : Nat} (h : p.index < siblings) :
    p.anchor siblings < siblings := by
  unfold anchor
  omega

namespace Grid

/-- Where a click finds a card of a flow. -/
def placementIn (ks : List CardKey) (key : CardKey) (metrics : Metrics) : Placement :=
  ⟨metrics, ks.idxOf key⟩

/-- The slot of the panel for a click on a card of a flow: behind the last card of its row. -/
def slotIn (ks : List CardKey) (key : CardKey) (metrics : Metrics) : Nat :=
  (placementIn ks key metrics).anchor ks.length + 1

theorem slotIn_le {ks : List CardKey} {key : CardKey} (h : key ∈ ks) (metrics : Metrics) :
    slotIn ks key metrics ≤ ks.length :=
  Placement.anchor_lt (List.idxOf_lt_length_of_mem h)

/-- Opening a card counts its place among the cards alone; what was open before makes no
difference. -/
theorem openDetail_of_mem {g : Grid} {key : CardKey} (h : key ∈ g.keys) (metrics : Metrics) :
    g.openDetail key metrics = ((ofKeys g.keys).insertDetail (slotIn g.keys key metrics),
      some (placementIn g.keys key metrics, slotIn g.keys key metrics)) := by
  rw [openDetail, withoutDetail_eq_ofKeys]
  simp only [position?_ofKeys h, size_ofKeys]
  rfl

end Grid

end SensorBoard
