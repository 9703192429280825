import SensorBoard.Proofs.Keyed
import SensorBoard.Proofs.Survey.Failure

/-!
# What a survey shows

A survey that succeeds is determined by the answers it was given: the devices in the order in which
they are listed first, the sensors of each with a rule in the order in which they are listed first,
and the value of each of these. These questions are asked and no others (`run_ok_iff_shown`).
-/

namespace SensorBoard.Survey

/-- The answers to all questions of a survey. -/
structure Answers where
  devices : List String
  sensors (device : String) : List String
  reading (device resource : String) : Reading

namespace Answers

variable (rules : RuleTable) (a : Answers)

/-- The devices, each where it is listed first. -/
def names : List String := a.devices.eraseDups

/-- The sensors of a device that have a rule, each where it is listed first. -/
def shown (device : String) : List (SensorId × Rule) :=
  (a.sensors device).eraseDups.filterMap fun raw =>
    (rules.lookup ⟨raw⟩).map fun rule => (⟨raw⟩, rule)

/-- The quantity that is reported, or the one of the rule if none is or it is unknown. -/
def quantity (reading : Reading) (rule : Rule) : Quantity :=
  match reading.reported with
  | none => rule.quantity
  | some word => if Quantity.ofReported word = .unknown then rule.quantity else .ofReported word

def record (device : String) (sensor : SensorId × Rule) : SensorRecord :=
  let resource := sensor.1.raw ++ sensor.2.valueSuffix
  let reading := a.reading device resource
  ⟨sensor.1, resource, quantity reading sensor.2, reading.value⟩

def deviceRecord (device : String) : DeviceRecord :=
  ⟨device, (a.shown rules device).map (a.record device)⟩

/-- The cards of a device: each sensor has one, with its rule. -/
def cards (device : String) : List Card :=
  (a.shown rules device).map fun sensor =>
    .ofRecord device (a.record device sensor) (some sensor.2)

/-- The questions for the values of a device. -/
def valueLookups (device : String) : List Lookup :=
  (a.shown rules device).map fun sensor =>
    .value device (sensor.1.raw ++ sensor.2.valueSuffix)

/-- The questions of the survey. -/
def lookups : List Lookup :=
  .devices :: (a.names.map Lookup.sensors ++ a.names.flatMap (a.valueLookups rules))

/-- The gateway gives these answers, wherever it is asked. -/
structure Of (gateway : Gateway) : Prop where
  devices : gateway.devices = .ok a.devices
  sensors : ∀ device ∈ a.devices, gateway.sensors device = .ok (a.sensors device)
  values : ∀ device ∈ a.devices, ∀ sensor ∈ a.shown rules device,
    gateway.value device (sensor.1.raw ++ sensor.2.valueSuffix) =
      .ok (a.reading device (sensor.1.raw ++ sensor.2.valueSuffix))

/-- The dashboard shows these answers and nothing else. -/
structure Shown (dashboard : Dashboard) : Prop where
  /-- Every listed device has one entry, also if none of its sensors has a rule. -/
  entries : dashboard.devices.Perm (a.names.map fun name => (name, a.deviceRecord rules name))
  ascending : dashboard.devices.Pairwise fun x y => x.1 < y.1
  /-- The cards stand in the order of the devices as they are listed, not in that of the entries. -/
  cards : dashboard.cards = a.names.flatMap (a.cards rules)
  /-- Each card is of its device, with the record and the rule of its sensor. -/
  contents : dashboard.cards.map (fun card => (card.device, card.sensor, card.rule)) =
    a.names.flatMap fun device => (a.shown rules device).map fun sensor =>
      (device, a.record device sensor, some sensor.2)
  closed : ∀ card ∈ dashboard.cards, card.state = .closed
  sensorCount : dashboard.sensorCount = dashboard.cards.length

variable {rules a} {gateway : Gateway} {device : String} {sensor : SensorId × Rule}

theorem mem_names : device ∈ a.names ↔ device ∈ a.devices := List.mem_eraseDups

theorem nodup_names : a.names.Nodup := by
  rw [names, ← distinct_eq_eraseDups]
  exact nodup_distinct a.devices

theorem mem_shown : sensor ∈ a.shown rules device ↔
    sensor.1.raw ∈ a.sensors device ∧ rules.lookup sensor.1 = some sensor.2 := by
  obtain ⟨⟨raw⟩, rule⟩ := sensor
  simp only [shown, List.mem_filterMap, List.mem_eraseDups, Option.map_eq_some_iff, Prod.mk.injEq,
    SensorId.mk.injEq]
  constructor
  · rintro ⟨_, hmem, _, hrule, rfl, rfl⟩
    exact ⟨hmem, hrule⟩
  · rintro ⟨hmem, hrule⟩
    exact ⟨raw, hmem, rule, hrule, rfl, rfl⟩

theorem listing_eq (device : String) :
    listing rules device (a.sensors device) = ⟨device, a.shown rules device⟩ := by
  rw [listing, distinct_eq_eraseDups]
  rfl

theorem quantity_eq (reading : Reading) (rule : Rule) :
    quantity reading rule = reading.quantityOr rule.quantity := by
  rw [quantity, Reading.quantityOr]
  cases reading.reported with
  | none => rfl
  | some word => cases hword : Quantity.ofReported word <;> simp [hword]

theorem record_eq (device : String) (sensor : SensorId × Rule) :
    Survey.record sensor.1 sensor.2 (a.reading device (sensor.2.resourceFor sensor.1)) =
      a.record device sensor := by
  rw [record, quantity_eq]
  rfl

theorem cardsOf_deviceRecord (device : String) :
    cardsOf rules (a.deviceRecord rules device) = a.cards rules device := by
  rw [cardsOf, deviceRecord, cards, List.map_map]
  refine List.map_congr_left fun sensor hsensor => ?_
  -- the rule is looked up once more, by the name that it was found with
  rw [Function.comp_apply, record, (mem_shown.mp hsensor).2]

/-- The dashboard of the answers. -/
theorem shown_assemble : a.Shown rules (assemble rules (a.names.map (a.deviceRecord rules))) := by
  have hentries : ((a.names.map (a.deviceRecord rules)).map fun d => (d.name, d)) =
      a.names.map fun name => (name, a.deviceRecord rules name) := List.map_map
  have hkeys :
      ((a.names.map fun name => (name, a.deviceRecord rules name)).map Prod.fst).Nodup := by
    rw [List.map_map]
    exact (List.map_id a.names).symm ▸ nodup_names
  -- the names are all different, so no entry makes way for another
  have hperm := Keyed.perm_ofList hkeys
  have hcards : (a.names.map (a.deviceRecord rules)).flatMap (cardsOf rules) =
      a.names.flatMap (a.cards rules) := by
    rw [List.flatMap_map]
    exact List.flatMap_congr fun device _ => cardsOf_deviceRecord device
  refine ⟨?_, Keyed.pairwise_ofList _, hcards, ?_, ?_, ?_⟩
  · rw [assemble, hentries]
    exact hperm
  · rw [assemble, hcards, List.map_flatMap]
    exact List.flatMap_congr fun device _ => List.map_map
  · intro card hcard
    obtain ⟨device, _, hcard⟩ := List.mem_flatMap.mp hcard
    obtain ⟨sensor, _, rfl⟩ := List.mem_map.mp hcard
    rfl
  · -- the entries are counted in another order than that of the cards
    rw [Dashboard.sensorCount, assemble, hentries, hcards,
      ((hperm.flatMap_right fun e => e.2.sensors).length_eq), List.flatMap_map]
    simp only [List.length_flatMap, deviceRecord, cards, List.length_map]

theorem Shown.eq_of_shown {d e : Dashboard} (hd : a.Shown rules d) (he : a.Shown rules e) :
    d = e := by
  have hdevices : d.devices = e.devices :=
    Keyed.eq_of_perm (hd.entries.trans he.entries.symm) hd.ascending he.ascending
  have hcards : d.cards = e.cards := hd.cards.trans he.cards.symm
  cases d
  cases e
  exact Dashboard.mk.injEq .. ▸ ⟨hdevices, hcards⟩

/-! ## The stages -/

theorem readDevice_of (ha : a.Of rules gateway) (hdevice : device ∈ a.devices) :
    readDevice gateway ⟨device, a.shown rules device⟩ =
      ⟨a.valueLookups rules device, .ok (a.deviceRecord rules device)⟩ := by
  have hread : ∀ sensor ∈ a.shown rules device, readSensor gateway device sensor =
      ⟨[.value device (sensor.2.resourceFor sensor.1)], .ok (a.record device sensor)⟩ := by
    intro sensor hsensor
    rw [readSensor_of_ok sensor (ha.values device hdevice sensor hsensor), ← record_eq]
    rfl
  rw [readDevice, Inquiry.each_eq_of_ok hread, Inquiry.bind_of_ok rfl, ← List.map_eq_flatMap]
  simp only [Inquiry.pure, List.append_nil]
  rfl

/-- A survey that is answered asks for what it shows and no more. -/
theorem run_of (ha : a.Of rules gateway) (hne : a.devices ≠ []) :
    run rules gateway =
      ⟨a.lookups rules, .ok (assemble rules (a.names.map (a.deviceRecord rules)))⟩ := by
  have henumerate : ∀ device ∈ a.names, enumerate rules gateway device =
      ⟨[.sensors device], .ok ⟨device, a.shown rules device⟩⟩ := by
    intro device hdevice
    rw [enumerate_of_ok (ha.sensors device (mem_names.mp hdevice)), listing_eq]
  have hread : ∀ listing ∈ a.names.map fun device => ⟨device, a.shown rules device⟩,
      readDevice gateway listing =
        ⟨a.valueLookups rules listing.name, .ok (a.deviceRecord rules listing.name)⟩ := by
    intro listing hlisting
    obtain ⟨device, hdevice, rfl⟩ := List.mem_map.mp hlisting
    exact readDevice_of ha (mem_names.mp hdevice)
  -- each stage is answered in full, so the next one begins where it ends
  rw [run, discover_of_listed ha.devices hne, distinct_eq_eraseDups, ← names,
    Inquiry.bind_of_ok rfl, Inquiry.each_eq_of_ok henumerate, Inquiry.bind_of_ok rfl,
    Inquiry.each_eq_of_ok hread, Inquiry.bind_of_ok rfl, ← List.map_eq_flatMap, List.flatMap_map,
    List.map_map]
  simp only [Inquiry.pure, List.append_nil]
  rfl

/-- The answers that a gateway gives; what it does not answer is not asked for. -/
def ofGateway (gateway : Gateway) : Answers where
  devices := gateway.devices.toOption.getD []
  sensors device := (gateway.sensors device).toOption.getD []
  reading device resource := (gateway.value device resource).toOption.getD ⟨none, .text ""⟩

theorem of_ofGateway {listed : List String} (hlisted : gateway.devices = .ok listed)
    (hread : ∀ device ∈ listed, ∃ ids, gateway.sensors device = .ok ids ∧
      ValuesRead rules gateway device ids) :
    (ofGateway gateway).Of rules gateway := by
  have hdevices : (ofGateway gateway).devices = listed := by
    simp [ofGateway, hlisted, Except.toOption]
  constructor
  · rw [hdevices, hlisted]
  · intro device hdevice
    obtain ⟨ids, hids, _⟩ := hread device (hdevices ▸ hdevice)
    simp [ofGateway, hids, Except.toOption]
  · intro device hdevice sensor hsensor
    obtain ⟨ids, hids, hvalues⟩ := hread device (hdevices ▸ hdevice)
    obtain ⟨hmem, hrule⟩ := mem_shown.mp hsensor
    have hmem : sensor.1.raw ∈ ids := by simpa [ofGateway, hids, Except.toOption] using hmem
    obtain ⟨reading, hreading⟩ := hvalues sensor.1.raw hmem sensor.2 hrule
    simp [ofGateway, hreading, Except.toOption]

end Answers

/-! ## A cellar

A gateway that lists a device twice and reports what is measured, once by an unknown word. -/

/-- A cellar with a thermometer and a light, and an attic where the rule is overruled. -/
def cellar : Gateway where
  devices := .ok ["cellar", "attic", "cellar"]
  sensors device :=
    .ok (if device = "cellar" then [".3303.0", ".5.1", ".1024.0", ".3303.0"] else [".3304.0"])
  value device resource :=
    .ok (if device = "attic" then ⟨some "Temperature", .number (-3)⟩
      else if resource = ".1024.0.1" then ⟨some "door", .flag true⟩
      else ⟨some " temp ", .number 20.5⟩)
  history _ _ := .ok [⟨1000000, 20.5⟩, ⟨2000000, 21⟩]

def cellarThermometer : SensorRecord := ⟨⟨".3303.0"⟩, ".3303.0.5700", .temperature, .number 20.5⟩

def cellarLight : SensorRecord := ⟨⟨".1024.0"⟩, ".1024.0.1", .bulb, .flag true⟩

/-- By its rule it would be a hygrometer. -/
def atticThermometer : SensorRecord :=
  ⟨⟨".3304.0"⟩, ".3304.0.5700", .temperature, .number (-3)⟩

/-- What the survey of the cellar finds: the attic comes first among the devices, and last among the
cards. -/
def cellarDashboard : Dashboard where
  devices := [("attic", ⟨"attic", [atticThermometer]⟩),
    ("cellar", ⟨"cellar", [cellarThermometer, cellarLight]⟩)]
  cards := [.ofRecord "cellar" cellarThermometer (some ⟨"3303", ".5700", "celsius", .temperature⟩),
    .ofRecord "cellar" cellarLight (some ⟨"1024", ".1", "power", .bulb⟩),
    .ofRecord "attic" atticThermometer (some ⟨"3304", ".5700", "percents", .humidity⟩)]

theorem run_cellar : (run .builtin cellar).result = .ok cellarDashboard := rfl

/-! ## The main statement -/

theorem shown_of_run {rules : RuleTable} {gateway : Gateway} {dashboard : Dashboard}
    (h : (run rules gateway).result = .ok dashboard) :
    ∃ answers : Answers, answers.Of rules gateway ∧ answers.devices ≠ [] ∧
      answers.Shown rules dashboard ∧ (run rules gateway).lookups = answers.lookups rules := by
  obtain ⟨listed, hlisted, hne, hread⟩ := run_ok_iff_read.mp ⟨dashboard, h⟩
  have ha := Answers.of_ofGateway hlisted hread
  have hne : (Answers.ofGateway gateway).devices ≠ [] := by
    simpa [Answers.ofGateway, hlisted, Except.toOption] using hne
  rw [Answers.run_of ha hne] at h ⊢
  cases h
  exact ⟨_, ha, hne, Answers.shown_assemble, rfl⟩

/-- A survey succeeds with a dashboard exactly if the gateway answers all its questions, lists a
device, and the dashboard shows these answers. The questions are then one for the devices, one for
the sensors of each device, and one for the value of each sensor that is shown. -/
theorem run_ok_iff_shown (rules : RuleTable) (gateway : Gateway) (dashboard : Dashboard) :
    (run rules gateway).result = .ok dashboard ↔
      ∃ answers : Answers, answers.Of rules gateway ∧ answers.devices ≠ [] ∧
        answers.Shown rules dashboard ∧ (run rules gateway).lookups = answers.lookups rules := by
  constructor
  · exact shown_of_run
  · rintro ⟨answers, ha, hne, hshown, -⟩
    rw [Answers.run_of ha hne, hshown.eq_of_shown Answers.shown_assemble]

/-- The cellar is listed twice, and so is its thermometer. Both are shown once and asked once. -/
theorem run_ok_iff_shown_cellar :
    ∃ answers : Answers, answers.Of .builtin cellar ∧ answers.Shown .builtin cellarDashboard ∧
      (run .builtin cellar).lookups = answers.lookups .builtin ∧
      (run .builtin cellar).lookups = [.devices, .sensors "cellar", .sensors "attic",
        .value "cellar" ".3303.0.5700", .value "cellar" ".1024.0.1",
        .value "attic" ".3304.0.5700"] := by
  obtain ⟨answers, ha, _, hshown, hlookups⟩ :=
    (run_ok_iff_shown .builtin cellar cellarDashboard).mp run_cellar
  exact ⟨answers, ha, hshown, hlookups, rfl⟩

end SensorBoard.Survey
