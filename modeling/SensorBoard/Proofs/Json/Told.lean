import Mathlib.Data.List.Forall2
import SensorBoard.Card.Basic
import SensorBoard.Grid.Placement

/-!
# What JSON tells

Which JSON values tell a chart, a placement and a map of devices, said by the members and their
values and not by the functions that write them. What those write tells what it was written from
(`tellsChart_toJson`, `tellsPlacement_toJson`, `tellsDevices_toJson`).
-/

namespace SensorBoard.Json

/-- A finite double is told by its number, and there is no number for any other. -/
inductive TellsDouble (x : Float) : Json → Prop where
  | finite (h : x.isFinite = true) : TellsDouble x (.number (.float x))
  | other (h : x.isFinite = false) : TellsDouble x .null

theorem tellsDouble_double (x : Float) : TellsDouble x (.double x) := by
  unfold double
  split
  case isTrue h => exact .finite h
  case isFalse h => exact .other (Bool.not_eq_true _ ▸ h)

theorem TellsDouble.eq_number {x : Float} {j : Json} (h : TellsDouble x j)
    (hx : x.isFinite = true) : j = .number (.float x) := by
  cases h with
  | finite _ => rfl
  | other hnot => cases hx.symm.trans hnot

/-! ## Charts and placements -/

/-- A point is told by the list of its time and its value. -/
inductive TellsPoint (p : HistoryPoint) : Json → Prop where
  | intro {value : Json} (hvalue : TellsDouble p.value value) :
      TellsPoint p (.list [.number (.int p.timestamp), value])

inductive TellsChart (c : Chart) : Json → Prop where
  | intro {series : List Json} (hseries : List.Forall₂ TellsPoint c.points series) :
      TellsChart c
        (.object [("label", .text c.label), ("units", .text c.units), ("series", .list series)])

theorem tellsChart_toJson (c : Chart) : TellsChart c c.toJson := by
  refine .intro (List.forall₂_map_right_iff.mpr (List.forall₂_same.mpr fun p _ => ?_))
  exact .intro (tellsDouble_double p.value)

inductive TellsPlacement (p : Placement) : Json → Prop where
  | intro {container card : Json} (hcontainer : TellsDouble p.metrics.containerWidth container)
      (hcard : TellsDouble p.metrics.cardWidth card) :
      TellsPlacement p (.object [("container_width_px", container), ("card_width_px", card),
        ("columns_per_row", .number (.int p.metrics.columns)),
        ("card_index_in_flow", .number (.int p.index)),
        ("column_offset_in_row", .number (.int (p.index % p.metrics.columns : Nat)))])

theorem tellsPlacement_toJson (p : Placement) : TellsPlacement p p.toJson :=
  .intro (tellsDouble_double _) (tellsDouble_double _)

/-! ## Devices -/

inductive TellsValue : SensorValue → Json → Prop where
  | number {x : Float} {j : Json} (h : TellsDouble x j) : TellsValue (.number x) j
  | flag (b : Bool) : TellsValue (.flag b) (.bool b)
  | text (s : String) : TellsValue (.text s) (.text s)

theorem tellsValue_toJson (v : SensorValue) : TellsValue v v.toJson := by
  cases v with
  | number x => exact .number (tellsDouble_double x)
  | flag b => exact .flag b
  | text s => exact .text s

inductive TellsSensor (r : SensorRecord) : Json → Prop where
  | intro {value : Json} (hvalue : TellsValue r.value value) :
      TellsSensor r (.object [("id", .text r.id.raw), ("resource", .text r.resource),
        ("type", .text r.quantity.name), ("value", value)])

inductive TellsDevice (d : DeviceRecord) : Json → Prop where
  | intro {sensors : List Json} (hsensors : List.Forall₂ TellsSensor d.sensors sensors) :
      TellsDevice d (.object [("name", .text d.name), ("sensors", .list sensors)])

/-- Devices are told by one member each, under their names in the map. -/
inductive TellsDevices (m : DeviceMap) : Json → Prop where
  | intro {members : List (String × Json)}
      (hmembers : List.Forall₂ (fun entry member => member.1 = entry.1 ∧
        TellsDevice entry.2 member.2) m members) :
      TellsDevices m (.object members)

theorem tellsDevice_toJson (d : DeviceRecord) : TellsDevice d d.toJson := by
  refine .intro (List.forall₂_map_right_iff.mpr (List.forall₂_same.mpr fun r _ => ?_))
  exact .intro (tellsValue_toJson r.value)

theorem tellsDevices_toJson (m : DeviceMap) : TellsDevices m m.toJson := by
  refine .intro (List.forall₂_map_right_iff.mpr (List.forall₂_same.mpr fun entry _ => ?_))
  exact ⟨rfl, tellsDevice_toJson entry.2⟩

end SensorBoard.Json
