import SensorBoard.Proofs.Inquiry
import SensorBoard.Proofs.Survey.Distinct

/-!
# Failed surveys

A survey fails with its first lookup that is not answered, in the order of the stages and within a
stage in the order of the lists (`run_error_iff_fails`). It makes no difference that a name is asked
for only where it stands first, and a sensor without a rule not at all. A stage that fails keeps the
next one from being asked for anything.
-/

namespace SensorBoard

namespace Survey

/-- The values of all listed sensors of a device that have a rule are answered. -/
def ValuesRead (rules : RuleTable) (gateway : Gateway) (device : String) (ids : List String) :
    Prop :=
  ∀ id ∈ ids, ∀ rule, rules.lookup ⟨id⟩ = some rule →
    ∃ reading, gateway.value device (id ++ rule.valueSuffix) = .ok reading

/-- The fault of a survey: what was asked for first and not answered. -/
inductive Fails (rules : RuleTable) (gateway : Gateway) : Fault → Prop where
  | deviceList {cause : LookupError} (hfail : gateway.devices = .error cause) :
      Fails rules gateway (.deviceList cause)
  | noDevices (hnone : gateway.devices = .ok []) : Fails rules gateway .noDevices
  -- the sensors of the devices listed before it are known
  | sensorList {before after : List String} {device : String} {cause : LookupError}
      (hlisted : gateway.devices = .ok (before ++ device :: after))
      (hbefore : ∀ d ∈ before, ∃ ids, gateway.sensors d = .ok ids)
      (hfail : gateway.sensors device = .error cause) :
      Fails rules gateway (.sensorList device cause)
  -- the sensors of all devices are known, and so is every value that is asked for before
  | sensorValue {before after : List String} {device : String} {idsBefore idsAfter : List String}
      {id : String} {rule : Rule} {cause : LookupError}
      (hlisted : gateway.devices = .ok (before ++ device :: after))
      (hsensors : ∀ d ∈ before ++ device :: after, ∃ ids, gateway.sensors d = .ok ids)
      (hbefore : ∀ d ∈ before, ∀ ids, gateway.sensors d = .ok ids → ValuesRead rules gateway d ids)
      (hids : gateway.sensors device = .ok (idsBefore ++ id :: idsAfter))
      (hidsBefore : ValuesRead rules gateway device idsBefore)
      (hrule : rules.lookup ⟨id⟩ = some rule)
      (hfail : gateway.value device (id ++ rule.valueSuffix) = .error cause) :
      Fails rules gateway (.sensorValue device (id ++ rule.valueSuffix) cause)

/-! ## Single lookups -/

variable {rules : RuleTable} {gateway : Gateway} {device : String} {fault : Fault}

theorem discover_of_listed {listed : List String} (hlisted : gateway.devices = .ok listed)
    (hne : listed ≠ []) : discover gateway = ⟨[.devices], .ok (distinct listed)⟩ := by
  simp [discover, hlisted, hne, Inquiry.ask, Inquiry.bind, Inquiry.pure, Except.mapError]

theorem enumerate_of_ok {ids : List String} (h : gateway.sensors device = .ok ids) :
    enumerate rules gateway device = ⟨[.sensors device], .ok (listing rules device ids)⟩ :=
  Inquiry.ask_bind_of_ok h ..

theorem enumerate_of_error {cause : LookupError} (h : gateway.sensors device = .error cause) :
    enumerate rules gateway device = ⟨[.sensors device], .error (.sensorList device cause)⟩ :=
  Inquiry.ask_bind_of_error h ..

theorem fault?_enumerate_eq_none_iff :
    (enumerate rules gateway device).fault? = none ↔ ∃ ids, gateway.sensors device = .ok ids := by
  cases h : gateway.sensors device with
  | ok ids => simp [enumerate_of_ok h, Inquiry.fault?]
  | error cause => simp [enumerate_of_error h, Inquiry.fault?]

theorem fault?_enumerate_eq_some_iff :
    (enumerate rules gateway device).fault? = some fault ↔
      ∃ cause, gateway.sensors device = .error cause ∧ fault = .sensorList device cause := by
  cases h : gateway.sensors device with
  | ok ids => simp [enumerate_of_ok h, Inquiry.fault?]
  | error cause => simp [enumerate_of_error h, Inquiry.fault?, eq_comm]

theorem readSensor_of_ok (sensor : SensorId × Rule) {reading : Reading}
    (h : gateway.value device (sensor.2.resourceFor sensor.1) = .ok reading) :
    readSensor gateway device sensor = ⟨[.value device (sensor.2.resourceFor sensor.1)],
      .ok (record sensor.1 sensor.2 reading)⟩ :=
  Inquiry.ask_bind_of_ok h ..

theorem readSensor_of_error (sensor : SensorId × Rule) {cause : LookupError}
    (h : gateway.value device (sensor.2.resourceFor sensor.1) = .error cause) :
    readSensor gateway device sensor = ⟨[.value device (sensor.2.resourceFor sensor.1)],
      .error (.sensorValue device (sensor.2.resourceFor sensor.1) cause)⟩ :=
  Inquiry.ask_bind_of_error h ..

/-- The fault of a listed sensor; one without a rule is not asked for. -/
def valueFault? (rules : RuleTable) (gateway : Gateway) (device id : String) : Option Fault :=
  (ruled? rules id).bind fun sensor => (readSensor gateway device sensor).fault?

theorem valueFault?_eq_none_iff {id : String} :
    valueFault? rules gateway device id = none ↔ ∀ rule, rules.lookup ⟨id⟩ = some rule →
      ∃ reading, gateway.value device (id ++ rule.valueSuffix) = .ok reading := by
  rw [valueFault?, ruled?]
  cases rules.lookup ⟨id⟩ with
  | none => simp
  | some rule =>
    cases h : gateway.value device (id ++ rule.valueSuffix) with
    | ok reading => simp [readSensor_of_ok (⟨id⟩, rule) h, Inquiry.fault?, h]
    | error cause => simp [readSensor_of_error (⟨id⟩, rule) h, Inquiry.fault?, h]

theorem valueFault?_eq_some_iff {id : String} :
    valueFault? rules gateway device id = some fault ↔ ∃ rule cause,
      rules.lookup ⟨id⟩ = some rule ∧ gateway.value device (id ++ rule.valueSuffix) = .error cause ∧
        fault = .sensorValue device (id ++ rule.valueSuffix) cause := by
  rw [valueFault?, ruled?]
  cases rules.lookup ⟨id⟩ with
  | none => simp
  | some rule =>
    cases h : gateway.value device (id ++ rule.valueSuffix) with
    | ok reading => simp [readSensor_of_ok (⟨id⟩, rule) h, Inquiry.fault?, h]
    | error cause =>
      simp [readSensor_of_error (⟨id⟩, rule) h, Inquiry.fault?, h, Rule.resourceFor,
        eq_comm]

/-! ## Stages -/

theorem findSome?_congr {α β : Type} {f g : α → Option β} {l : List α}
    (h : ∀ a ∈ l, f a = g a) : l.findSome? f = l.findSome? g := by
  rw [← List.head?_filterMap, ← List.head?_filterMap, List.filterMap_congr h]

/-- The fault of the third stage at a device whose sensors are known. -/
def deviceFault? (rules : RuleTable) (gateway : Gateway) (device : String) : Option Fault :=
  match gateway.sensors device with
  | .ok ids => ids.findSome? (valueFault? rules gateway device)
  | .error _ => none

theorem fault?_readDevice (rules : RuleTable) (gateway : Gateway) (device : String)
    (ids : List String) :
    (readDevice gateway (listing rules device ids)).fault? =
      ids.findSome? (valueFault? rules gateway device) := by
  rw [readDevice, Inquiry.fault?_bind_pure, Inquiry.fault?_each, listing]
  -- what is found in the sensors with a rule is found through the names they come from
  rw [← List.head?_filterMap, List.filterMap_filterMap, List.head?_filterMap]
  exact findSome?_distinct (valueFault? rules gateway device) ids

theorem fault?_readDevice_of_ok {ids : List String} (h : gateway.sensors device = .ok ids) :
    (readDevice gateway (listing rules device ids)).fault? = deviceFault? rules gateway device := by
  rw [fault?_readDevice, deviceFault?, h]

theorem run_of_deviceList_error {cause : LookupError} (h : gateway.devices = .error cause) :
    run rules gateway = ⟨[.devices], .error (.deviceList cause)⟩ := by
  have hdiscover : discover gateway = ⟨[.devices], .error (.deviceList cause)⟩ :=
    Inquiry.ask_bind_of_error h ..
  rw [run, hdiscover]
  rfl

theorem run_of_no_devices (h : gateway.devices = .ok []) :
    run rules gateway = ⟨[.devices], .error .noDevices⟩ := by
  simp [run, discover, h, Inquiry.ask, Inquiry.bind, Inquiry.fail, Except.mapError]

section Listed

variable {listed : List String} (hlisted : gateway.devices = .ok listed) (hne : listed ≠ [])

include hlisted hne

/-- A sensor list that is missing counts before any value, wherever its device is listed. -/
theorem fault?_run_of_listed :
    (run rules gateway).fault? =
      (listed.findSome? fun device => (enumerate rules gateway device).fault?).or
        (listed.findSome? (deviceFault? rules gateway)) := by
  have hdiscover := discover_of_listed hlisted hne
  have hlistings : (Inquiry.each (enumerate rules gateway) (distinct listed)).fault? =
      listed.findSome? fun device => (enumerate rules gateway device).fault? := by
    rw [Inquiry.fault?_each, findSome?_distinct]
  rw [run, Inquiry.fault?_bind_of_ok (congrArg Inquiry.result hdiscover)]
  cases hfirst : listed.findSome? fun device => (enumerate rules gateway device).fault? with
  | some fault =>
    -- the second stage fails, and the third is never begun
    rw [hfirst] at hlistings
    rw [Inquiry.bind_of_error (Inquiry.fault?_eq_some_iff.mp hlistings)]
    rfl
  | none =>
    -- all sensors are known, and the third stage reads them device by device
    have hsensors (device : String) (hd : device ∈ distinct listed) :
        ∃ ids, gateway.sensors device = .ok ids :=
      fault?_enumerate_eq_none_iff.mp
        (List.findSome?_eq_none_iff.mp hfirst device (mem_distinct.mp hd))
    have henumerate : ∀ device ∈ distinct listed, enumerate rules gateway device =
        ⟨[.sensors device],
          .ok (listing rules device ((gateway.sensors device).toOption.getD []))⟩ := by
      intro device hd
      obtain ⟨ids, hids⟩ := hsensors device hd
      rw [enumerate_of_ok hids, hids]
      rfl
    rw [Inquiry.each_eq_of_ok henumerate, Inquiry.fault?_bind_of_ok rfl, Inquiry.fault?_bind_pure,
      Inquiry.fault?_each, List.findSome?_map, Option.none_or,
      ← findSome?_distinct (deviceFault? rules gateway) listed]
    refine findSome?_congr fun device hd => ?_
    obtain ⟨ids, hids⟩ := hsensors device hd
    rw [Function.comp_apply, hids]
    exact fault?_readDevice_of_ok hids

/-- Where a sensor list is missing, nothing but lists is asked for. -/
theorem value_notMem_lookups {device : String} {cause : LookupError} (hdevice : device ∈ listed)
    (hfail : gateway.sensors device = .error cause) (name resource : String) :
    Lookup.value name resource ∉ (run rules gateway).lookups := by
  have hdiscover := discover_of_listed hlisted hne
  cases hlistings : (Inquiry.each (enumerate rules gateway) (distinct listed)).result with
  | ok listings =>
    -- the list of this device would have had to be answered
    have hnone := Inquiry.fault?_eq_none_iff.mpr ⟨listings, hlistings⟩
    rw [Inquiry.fault?_each, findSome?_distinct, List.findSome?_eq_none_iff] at hnone
    obtain ⟨ids, hids⟩ := fault?_enumerate_eq_none_iff.mp (hnone device hdevice)
    rw [hfail] at hids
    cases hids
  | error fault =>
    intro hmem
    rw [run, Inquiry.bind_of_ok (congrArg Inquiry.result hdiscover), hdiscover,
      Inquiry.bind_of_error hlistings] at hmem
    rcases List.mem_append.mp hmem with h | h
    · simp at h
    · obtain ⟨d, _, h⟩ := Inquiry.mem_lookups_each h
      cases hd : gateway.sensors d with
      | ok ids => simp [enumerate_of_ok hd] at h
      | error e => simp [enumerate_of_error hd] at h

end Listed

/-! ## Faults of a survey -/

theorem findSome?_valueFault?_eq_none_iff {ids : List String} :
    ids.findSome? (valueFault? rules gateway device) = none ↔
      ValuesRead rules gateway device ids := by
  rw [List.findSome?_eq_none_iff]
  exact forall₂_congr fun id _ => valueFault?_eq_none_iff

theorem deviceFault?_eq_none_iff {ids : List String} (hids : gateway.sensors device = .ok ids) :
    deviceFault? rules gateway device = none ↔ ValuesRead rules gateway device ids := by
  rw [deviceFault?, hids, findSome?_valueFault?_eq_none_iff]

theorem deviceFault?_eq_some_iff :
    deviceFault? rules gateway device = some fault ↔ ∃ idsBefore id idsAfter rule cause,
      gateway.sensors device = .ok (idsBefore ++ id :: idsAfter) ∧
        ValuesRead rules gateway device idsBefore ∧ rules.lookup ⟨id⟩ = some rule ∧
        gateway.value device (id ++ rule.valueSuffix) = .error cause ∧
        fault = .sensorValue device (id ++ rule.valueSuffix) cause := by
  cases hsensors : gateway.sensors device with
  | error cause => simp [deviceFault?, hsensors]
  | ok ids =>
    rw [deviceFault?, hsensors]
    constructor
    · intro h
      obtain ⟨idsBefore, id, idsAfter, rfl, hid, hbefore⟩ := List.findSome?_eq_some_iff.mp h
      obtain ⟨rule, cause, hrule, hfail, hfault⟩ := valueFault?_eq_some_iff.mp hid
      have hread := findSome?_valueFault?_eq_none_iff.mp (List.findSome?_eq_none_iff.mpr hbefore)
      exact ⟨idsBefore, id, idsAfter, rule, cause, rfl, hread, hrule, hfail, hfault⟩
    · rintro ⟨idsBefore, id, idsAfter, rule, cause, hids, hread, hrule, hfail, hfault⟩
      cases hids
      have hbefore := List.findSome?_eq_none_iff.mp (findSome?_valueFault?_eq_none_iff.mpr hread)
      have hid := valueFault?_eq_some_iff.mpr ⟨rule, cause, hrule, hfail, hfault⟩
      exact List.findSome?_eq_some_iff.mpr ⟨idsBefore, id, idsAfter, rfl, hid, hbefore⟩

theorem fails_of_run (h : (run rules gateway).result = .error fault) :
    Fails rules gateway fault := by
  cases hdevices : gateway.devices with
  | error cause =>
    rw [run_of_deviceList_error hdevices] at h
    cases h
    exact .deviceList hdevices
  | ok listed =>
    by_cases hne : listed = []
    · subst hne
      rw [run_of_no_devices hdevices] at h
      cases h
      exact .noDevices hdevices
    · rw [← Inquiry.fault?_eq_some_iff, fault?_run_of_listed hdevices hne,
        Option.or_eq_some_iff] at h
      rcases h with h | ⟨hnone, h⟩
      · -- the first device whose sensors are missing
        obtain ⟨before, device, after, rfl, hd, hbefore⟩ := List.findSome?_eq_some_iff.mp h
        obtain ⟨cause, hfail, rfl⟩ := fault?_enumerate_eq_some_iff.mp hd
        exact .sensorList hdevices
          (fun d hd => fault?_enumerate_eq_none_iff.mp (hbefore d hd)) hfail
      · -- the first device with a value that is missing, and the first such value of it
        obtain ⟨before, device, after, rfl, hd, hbefore⟩ := List.findSome?_eq_some_iff.mp h
        obtain ⟨idsBefore, id, idsAfter, rule, cause, hids, hread, hrule, hfail, rfl⟩ :=
          deviceFault?_eq_some_iff.mp hd
        have hsensors (d : String) (hd : d ∈ before ++ device :: after) :=
          fault?_enumerate_eq_none_iff.mp (List.findSome?_eq_none_iff.mp hnone d hd)
        exact .sensorValue hdevices hsensors
          (fun d hd ids hok => (deviceFault?_eq_none_iff hok).mp (hbefore d hd))
          hids hread hrule hfail

theorem run_of_fails (h : Fails rules gateway fault) :
    (run rules gateway).result = .error fault := by
  cases h with
  | deviceList hfail => rw [run_of_deviceList_error hfail]
  | noDevices hnone => rw [run_of_no_devices hnone]
  | @sensorList before after device cause hlisted hbefore hfail =>
    have hfirst : (before ++ device :: after).findSome?
        (fun d => (enumerate rules gateway d).fault?) = some (.sensorList device cause) :=
      List.findSome?_eq_some_iff.mpr ⟨before, device, after, rfl,
        fault?_enumerate_eq_some_iff.mpr ⟨cause, hfail, rfl⟩,
        fun d hd => fault?_enumerate_eq_none_iff.mpr (hbefore d hd)⟩
    rw [← Inquiry.fault?_eq_some_iff, fault?_run_of_listed hlisted (by simp),
      Option.or_eq_some_iff]
    exact Or.inl hfirst
  | @sensorValue before after device _ _ _ _ _ hlisted hsensors hbefore hids hread hrule hfail =>
    have hlists : (before ++ device :: after).findSome?
        (fun d => (enumerate rules gateway d).fault?) = none :=
      List.findSome?_eq_none_iff.mpr fun d hd => fault?_enumerate_eq_none_iff.mpr (hsensors d hd)
    have hknown (d : String) (hd : d ∈ before) : deviceFault? rules gateway d = none := by
      obtain ⟨ids, hok⟩ := hsensors d (List.mem_append_left _ hd)
      exact (deviceFault?_eq_none_iff hok).mpr (hbefore d hd ids hok)
    have hfirst := List.findSome?_eq_some_iff.mpr ⟨before, device, after, rfl,
      deviceFault?_eq_some_iff.mpr ⟨_, _, _, _, _, hids, hread, hrule, hfail, rfl⟩, hknown⟩
    rw [← Inquiry.fault?_eq_some_iff, fault?_run_of_listed hlisted (by simp),
      Option.or_eq_some_iff]
    exact Or.inr ⟨hlists, hfirst⟩

/-- A survey succeeds exactly if nothing that it would ask for fails. -/
theorem run_ok_iff_read : (∃ dashboard, (run rules gateway).result = .ok dashboard) ↔
    ∃ listed, gateway.devices = .ok listed ∧ listed ≠ [] ∧
      ∀ device ∈ listed, ∃ ids, gateway.sensors device = .ok ids ∧
        ValuesRead rules gateway device ids := by
  rw [← Inquiry.fault?_eq_none_iff]
  cases hdevices : gateway.devices with
  | error cause => simp [run_of_deviceList_error hdevices, Inquiry.fault?]
  | ok listed =>
    by_cases hne : listed = []
    · subst hne
      simp [run_of_no_devices hdevices, Inquiry.fault?]
    · rw [fault?_run_of_listed hdevices hne, Option.or_eq_none_iff, List.findSome?_eq_none_iff,
        List.findSome?_eq_none_iff, ← forall₂_and]
      simp only [Except.ok.injEq, exists_eq_left', ne_eq, hne, not_false_eq_true, true_and]
      refine forall₂_congr fun device _ => ?_
      rw [fault?_enumerate_eq_none_iff]
      constructor
      · rintro ⟨⟨ids, hids⟩, hnone⟩
        exact ⟨ids, hids, (deviceFault?_eq_none_iff hids).mp hnone⟩
      · rintro ⟨ids, hids, hread⟩
        exact ⟨⟨ids, hids⟩, (deviceFault?_eq_none_iff hids).mpr hread⟩

/-- A survey fails with `fault` exactly if that is what it asked for first and did not get; and it
fails at all exactly if the list of devices is missing or empty, a sensor list of a listed device is
missing, or a value of a listed sensor that has a rule. A missing or empty list of devices is the
only thing looked up, and where a sensor list is missing no value is. -/
theorem run_error_iff_fails (rules : RuleTable) (gateway : Gateway) :
    (∀ fault, (run rules gateway).result = .error fault ↔ Fails rules gateway fault) ∧
    ((∃ fault, (run rules gateway).result = .error fault) ↔
      (∃ cause, gateway.devices = .error cause) ∨ gateway.devices = .ok [] ∨
        ∃ listed, gateway.devices = .ok listed ∧ ∃ device ∈ listed,
          (∃ cause, gateway.sensors device = .error cause) ∨
            ∃ ids, gateway.sensors device = .ok ids ∧ ∃ id ∈ ids, ∃ rule cause,
              rules.lookup ⟨id⟩ = some rule ∧
                gateway.value device (id ++ rule.valueSuffix) = .error cause) ∧
    ((∃ cause, gateway.devices = .error cause) ∨ gateway.devices = .ok [] →
      (run rules gateway).lookups = [.devices]) ∧
    ∀ listed, gateway.devices = .ok listed → ∀ device ∈ listed, ∀ cause,
      gateway.sensors device = .error cause → ∀ name resource,
        Lookup.value name resource ∉ (run rules gateway).lookups := by
  refine ⟨fun fault => ⟨fails_of_run, run_of_fails⟩, ⟨?_, ?_⟩, ?_, ?_⟩
  · rintro ⟨fault, h⟩
    rcases fails_of_run h with hfail | hnone | ⟨hlisted, -, hfail⟩ |
      ⟨hlisted, -, -, hids, -, hrule, hfail⟩
    · exact Or.inl ⟨_, hfail⟩
    · exact Or.inr (Or.inl hnone)
    · exact Or.inr (Or.inr ⟨_, hlisted, _, by simp, Or.inl ⟨_, hfail⟩⟩)
    · exact Or.inr (Or.inr ⟨_, hlisted, _, by simp,
        Or.inr ⟨_, hids, _, by simp, _, _, hrule, hfail⟩⟩)
  · intro hmissing
    cases hresult : (run rules gateway).result with
    | error fault => exact ⟨fault, rfl⟩
    | ok dashboard =>
      -- a survey that succeeds had an answer for everything that is said to be missing
      obtain ⟨listed, hlisted, hne, hread⟩ := run_ok_iff_read.mp ⟨dashboard, hresult⟩
      rw [hlisted] at hmissing
      rcases hmissing with ⟨cause, h⟩ | h | ⟨_, h, device, hdevice, hfail⟩
      · cases h
      · exact absurd (Except.ok.inj h) hne
      · cases h
        obtain ⟨ids, hids, hvalues⟩ := hread device hdevice
        rw [hids] at hfail
        rcases hfail with ⟨cause, h⟩ | ⟨_, h, id, hid, rule, cause, hrule, hfail⟩
        · cases h
        · cases h
          obtain ⟨reading, hok⟩ := hvalues id hid rule hrule
          rw [hok] at hfail
          cases hfail
  · rintro (⟨cause, h⟩ | h)
    · rw [run_of_deviceList_error h]
    · rw [run_of_no_devices h]
  · intro listed hlisted device hdevice cause hfail
    exact value_notMem_lookups hlisted (List.ne_nil_of_mem hdevice) hdevice hfail

/-- A missing list counts before a missing value, even if its device is listed last. -/
example :
    run .builtin
      { devices := .ok ["porch", "attic"]
        sensors := fun d => if d = "porch" then .ok [".3303.0"] else .error (.undecodable "list")
        value := fun _ _ => .error (.undecodable "value")
        history := fun _ _ => .ok [] } =
      ⟨[.devices, .sensors "porch", .sensors "attic"],
        .error (.sensorList "attic" (.undecodable "list"))⟩ :=
  rfl

end Survey

end SensorBoard
