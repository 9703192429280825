import SensorBoard.Proofs.Survey.Answers

/-!
# Fresh dashboards

What a board starts with. Every card of a successful survey is as its record made it, closed and
without a history, and no two cards have one key, since no name stands twice in the lists that are
shown.
-/

namespace SensorBoard

/-- The dashboard of a fresh board: the cards are as their records made them, and a key tells each
from all others. -/
structure Dashboard.Fresh (d : Dashboard) : Prop where
  keys_nodup : (d.cards.map Card.key).Nodup
  ofRecord : ∀ c ∈ d.cards, ∃ device sensor rule, c = Card.ofRecord device sensor rule

namespace Survey

namespace Answers

variable {rules : RuleTable} {a : Answers}

theorem nodup_shown (device : String) : ((a.shown rules device).map fun s => s.1.raw).Nodup := by
  rw [shown, List.map_filterMap, ← distinct_eq_eraseDups]
  refine (nodup_distinct (a.sensors device)).filterMap fun b c raw hb hc => ?_
  -- whatever name comes out is the name that was looked up
  have key : ∀ name, raw ∈ ((rules.lookup ⟨name⟩).map fun rule => (SensorId.mk name, rule)).map
      (fun s => s.1.raw) → raw = name := by
    intro name hname
    obtain ⟨sensor, hs, rfl⟩ := Option.map_eq_some_iff.mp hname
    obtain ⟨rule, _, rfl⟩ := Option.map_eq_some_iff.mp hs
    rfl
  exact (key b hb).symm.trans (key c hc)

theorem map_key_cards (device : String) : (a.cards rules device).map Card.key =
    (a.shown rules device).map fun s => ⟨device, s.1.raw⟩ := by
  rw [cards, List.map_map]
  rfl

theorem nodup_keys_cards (device : String) : ((a.cards rules device).map Card.key).Nodup := by
  have hraw : ((a.shown rules device).map fun s => s.1.raw).Nodup := nodup_shown device
  rw [map_key_cards]
  rw [List.Nodup, List.pairwise_map] at hraw ⊢
  exact hraw.imp fun hne heq => hne (CardKey.mk.inj heq).2

theorem disjoint_keys_cards {device other : String} (h : device ≠ other) :
    List.Disjoint ((a.cards rules device).map Card.key) ((a.cards rules other).map Card.key) := by
  intro key hdevice hother
  rw [map_key_cards, List.mem_map] at hdevice hother
  obtain ⟨_, _, rfl⟩ := hdevice
  obtain ⟨_, _, heq⟩ := hother
  exact h (CardKey.mk.inj heq).1.symm

/-- Keys differ in the sensor within a device, and in the device otherwise. -/
theorem Shown.fresh {d : Dashboard} (h : a.Shown rules d) : d.Fresh := by
  constructor
  · rw [h.cards, List.map_flatMap, List.nodup_flatMap]
    exact ⟨fun device _ => nodup_keys_cards device, nodup_names.imp disjoint_keys_cards⟩
  · intro c hc
    rw [h.cards] at hc
    obtain ⟨device, _, hc⟩ := List.mem_flatMap.mp hc
    obtain ⟨sensor, _, rfl⟩ := List.mem_map.mp hc
    exact ⟨_, _, _, rfl⟩

end Answers

/-- A successful survey gives a fresh dashboard, whatever repeats the lists of the gateway hold. -/
theorem fresh_of_run {rules : RuleTable} {gateway : Gateway} {d : Dashboard}
    (h : (run rules gateway).result = .ok d) : d.Fresh := by
  obtain ⟨answers, _, _, hshown, _⟩ := shown_of_run h
  exact hshown.fresh

/-! ## A porch

A gateway whose lists repeat themselves and name a sensor without a rule. -/

/-- A porch with a thermometer, a hygrometer and a light. -/
def porch : Gateway where
  devices := .ok ["porch", "porch"]
  sensors _ := .ok [".3303.0", ".1024.0", ".3303.0", ".5.1", ".3304.0"]
  value _ _ := .ok ⟨none, .flag true⟩
  history _ _ := .ok []

/-- A sensor of the porch as the survey finds it. -/
def porchSensor (id : String) (rule : Rule) : SensorRecord :=
  record ⟨id⟩ rule ⟨none, .flag true⟩

/-- The sensors of the porch with their rules. -/
def porchSensors : List (SensorRecord × Rule) :=
  [("3303", ".5700", "celsius", Quantity.temperature, ".3303.0"),
    ("1024", ".1", "power", .bulb, ".1024.0"),
    ("3304", ".5700", "percents", .humidity, ".3304.0")].map
    fun (token, suffix, units, quantity, id) =>
      (porchSensor id ⟨token, suffix, units, quantity⟩, ⟨token, suffix, units, quantity⟩)

/-- What the survey of the porch finds. -/
def porchDashboard : Dashboard where
  devices := [("porch", ⟨"porch", porchSensors.map Prod.fst⟩)]
  cards := porchSensors.map fun (sensor, rule) => .ofRecord "porch" sensor (some rule)

theorem run_porch : (run .builtin porch).result = .ok porchDashboard := rfl

end Survey

end SensorBoard
