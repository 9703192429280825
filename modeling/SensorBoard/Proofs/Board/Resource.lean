import SensorBoard.Proofs.Board.Request
import SensorBoard.Proofs.Lookup.Path
import SensorBoard.Proofs.Sensor.Id

/-!
# Resources of a board

Where no suffix of a rule table makes a part of a name longer, every sensor has a resource of its
own. So the paths of all values and histories of a board are different, and whatever is fetched from
one of them belongs to the card that it was fetched for (`resources_distinct`).
-/

namespace SensorBoard

/-- The question for the value of a card. -/
def Card.valueLookup (c : Card) : Lookup := .value c.device c.sensor.resource

/-- The question for the history of a card. -/
def Card.historyLookup (c : Card) : Lookup := .history c.device c.sensor.resource

/-- The question that a request is for. -/
def HistoryRequest.lookup (r : HistoryRequest) : Lookup := .history r.key.device r.resource

/-- The card shows a sensor that has a rule, with the value that was given for its resource. -/
structure Card.Surveyed (rules : RuleTable) (gateway : Gateway) (c : Card) : Prop where
  resource : ∃ rule, rules.lookup c.sensor.id = some rule ∧
    c.sensor.resource = rule.resourceFor c.sensor.id
  value : ∃ reading, gateway.value c.device c.sensor.resource = .ok reading ∧
    c.sensor.value = reading.value

variable {rules : RuleTable} {gateway : Gateway} {d : Dashboard}

/-! ## Cards of a survey -/

namespace Survey

theorem Answers.Shown.surveyed {a : Answers} (h : a.Shown rules d) (ha : a.Of rules gateway) :
    ∀ c ∈ d.cards, c.Surveyed rules gateway := by
  intro c hc
  rw [h.cards] at hc
  obtain ⟨device, hdevice, hc⟩ := List.mem_flatMap.mp hc
  obtain ⟨sensor, hsensor, rfl⟩ := List.mem_map.mp hc
  have hrule := (mem_shown.mp hsensor).2
  have hvalue := ha.values device (mem_names.mp hdevice) sensor hsensor
  exact ⟨⟨sensor.2, hrule, rfl⟩, ⟨_, hvalue, rfl⟩⟩

/-- The questions for values are those of the cards. -/
theorem Answers.Shown.valueLookups {a : Answers} (h : a.Shown rules d) :
    a.names.flatMap (a.valueLookups rules) = d.cards.map Card.valueLookup := by
  rw [h.cards, List.map_flatMap]
  refine List.flatMap_congr fun device _ => ?_
  rw [Answers.valueLookups, Answers.cards, List.map_map]
  rfl

end Survey

namespace Board

variable {b : Board}

/-- What is not changed by clicks and answers is the same on the whole run. -/
theorem Consistent.map_run {α : Type} (h : b.Consistent) (actions : List Action) (f : Card → α)
    (hf : ∀ c, f c.blank = f c) : (b.run actions).cards.map f = b.cards.map f := by
  have hread (b : Board) : b.cards.map f = b.blanks.map f := by
    rw [blanks, List.map_map]
    exact List.map_congr_left fun c _ => (hf c).symm
  rw [hread, hread, h.blanks_run actions]

theorem surveyed_run (hsurvey : (Survey.run rules gateway).result = .ok d) (actions : List Action) :
    ∀ c ∈ ((ofDashboard d).run actions).cards, c.Surveyed rules gateway := by
  obtain ⟨answers, ha, _, hshown, _⟩ := Survey.shown_of_run hsurvey
  have hstart := consistent_ofDashboard (Survey.fresh_of_run hsurvey)
  have hcards := hstart.map_run actions (fun c => (c.device, c.sensor)) fun _ => rfl
  intro c hc
  -- the card has the device and the sensor of a card of the survey
  have hmem := List.mem_map_of_mem (f := fun c : Card => (c.device, c.sensor)) hc
  rw [hcards] at hmem
  obtain ⟨c₀, hc₀, heq⟩ := List.mem_map.mp hmem
  obtain ⟨hdevice, hsensor⟩ := Prod.mk.inj heq
  obtain ⟨hresource, hvalue⟩ := hshown.surveyed ha c₀ hc₀
  rw [hdevice, hsensor] at hvalue
  rw [hsensor] at hresource
  exact ⟨hresource, hvalue⟩

/-! ## Paths -/

/-- The device and the resource tell the card. -/
theorem eq_of_resource_eq (hrules : rules.isDotted = true) (hkeys : b.keys.Nodup)
    (hcards : ∀ c ∈ b.cards, c.Surveyed rules gateway) {c c' : Card} (hc : c ∈ b.cards)
    (hc' : c' ∈ b.cards) (hdevice : c.device = c'.device)
    (hresource : c.sensor.resource = c'.sensor.resource) : c = c' := by
  obtain ⟨rule, hrule, heq⟩ := (hcards c hc).resource
  obtain ⟨rule', hrule', heq'⟩ := (hcards c' hc').resource
  have hid : c.sensor.id = c'.sensor.id :=
    RuleTable.eq_of_resourceFor_eq hrules hrule hrule' (by rw [← heq, ← heq', hresource])
  refine eq_of_key_eq hkeys hc hc' ?_
  rw [Card.key, Card.key, hdevice, hid]

theorem nodup_paths (hrules : rules.isDotted = true) (hkeys : b.keys.Nodup)
    (hcards : ∀ c ∈ b.cards, c.Surveyed rules gateway) :
    ((b.cards.map Card.valueLookup ++ b.cards.map Card.historyLookup).map Lookup.path).Nodup := by
  have hnodup : b.cards.Nodup := List.Nodup.of_map _ hkeys
  refine List.Nodup.map Lookup.path_injective (List.Nodup.append ?_ ?_ ?_)
  · refine hnodup.map_on fun c hc c' hc' heq => ?_
    obtain ⟨hdevice, hresource⟩ := Lookup.value.inj heq
    exact eq_of_resource_eq hrules hkeys hcards hc hc' hdevice hresource
  · refine hnodup.map_on fun c hc c' hc' heq => ?_
    obtain ⟨hdevice, hresource⟩ := Lookup.history.inj heq
    exact eq_of_resource_eq hrules hkeys hcards hc hc' hdevice hresource
  · -- a question for a value is none for a history
    intro lookup hvalue hhistory
    obtain ⟨_, _, rfl⟩ := List.mem_map.mp hvalue
    obtain ⟨_, _, heq⟩ := List.mem_map.mp hhistory
    cases heq

/-- A click asks for the history of the card that was clicked. -/
theorem ToggleStep.lookup_request {key : CardKey} {metrics : Metrics} {outcome : ToggleOutcome}
    {b' : Board} (step : b.ToggleStep key metrics outcome b') {request : HistoryRequest}
    (hr : outcome.request? = some request) :
    ∃ c ∈ b.cards, c.key = request.key ∧ request.lookup = c.historyLookup := by
  cases step with
  | unknown _ => cases hr
  | switched _ _ _ => cases hr
  | closed _ _ _ _ => cases hr
  | @opened card hmem _ _ _ =>
    rw [request?_opens, Card.awaited?_eq_some_iff] at hr
    obtain ⟨_, hkey, hresource⟩ := hr
    refine ⟨card, hmem, hkey.symm, ?_⟩
    rw [HistoryRequest.lookup, hkey, hresource]
    rfl

theorem path_request_eq_iff (hrules : rules.isDotted = true) (h : b.Consistent)
    (hcards : ∀ c ∈ b.cards, c.Surveyed rules gateway) {key : CardKey} {metrics : Metrics}
    {request : HistoryRequest} (hr : (b.toggle key metrics).1.request? = some request) :
    ∀ c ∈ b.cards, c.historyLookup.path = request.lookup.path ↔ c.key = request.key := by
  intro c hc
  obtain ⟨card, hcard, hkey, hlookup⟩ := (toggle_step h key metrics).lookup_request hr
  rw [hlookup, Lookup.path_injective.eq_iff, ← hkey]
  constructor
  · intro heq
    obtain ⟨hdevice, hresource⟩ := Lookup.history.inj heq
    rw [eq_of_resource_eq hrules h.keys_nodup hcards hc hcard hdevice hresource]
  · intro heq
    rw [eq_of_key_eq h.keys_nodup hc hcard heq]

/-! ## The main statement -/

/-- If every suffix of the rule table is empty or begins with a dot, as in the table of the rules
that are always there, then two sensors with rules have different resources, and a resource is of
the type of its sensor. On the board of a survey, whatever has happened to it, the paths of the
values and histories of its cards are all different. The survey has asked for the value of every
card in turn, and that is the value on the card; a click asks for a history by the path of the
clicked card, and no other card has that path. -/
theorem resources_distinct (rules : RuleTable) (hrules : rules.isDotted = true) :
    RuleTable.builtin.isDotted = true ∧
    (∀ id id' rule rule', rules.lookup id = some rule → rules.lookup id' = some rule' →
      (rule.resourceFor id = rule'.resourceFor id' ↔ id = id')) ∧
    (∀ id rule, rules.lookup id = some rule →
      (SensorId.mk (rule.resourceFor id)).typeToken? = id.typeToken?) ∧
    ∀ gateway d, (Survey.run rules gateway).result = .ok d → ∀ actions,
      let b := (ofDashboard d).run actions
      ((b.cards.map Card.valueLookup ++ b.cards.map Card.historyLookup).map Lookup.path).Nodup ∧
      (∃ names : List String, (Survey.run rules gateway).lookups =
        .devices :: (names.map Lookup.sensors ++ b.cards.map Card.valueLookup)) ∧
      (∀ c ∈ b.cards, ∃ reading, gateway.value c.device c.sensor.resource = .ok reading ∧
        c.sensor.value = reading.value) ∧
      ∀ key metrics request, (b.toggle key metrics).1.request? = some request →
        ∀ c ∈ b.cards, c.historyLookup.path = request.lookup.path ↔ c.key = request.key := by
  refine ⟨RuleTable.isDotted_builtin, fun id id' rule rule' h h' => ⟨?_, ?_⟩,
    fun id rule h => RuleTable.typeToken?_resourceFor hrules h, fun gateway d hsurvey actions => ?_⟩
  · exact RuleTable.eq_of_resourceFor_eq hrules h h'
  · rintro rfl
    rw [Option.some.inj (h.symm.trans h')]
  · intro b
    obtain ⟨answers, _, _, hshown, hlookups⟩ := Survey.shown_of_run hsurvey
    have hstart := consistent_ofDashboard (Survey.fresh_of_run hsurvey)
    have h : b.Consistent := hstart.run actions
    have hcards : ∀ c ∈ b.cards, c.Surveyed rules gateway := surveyed_run hsurvey actions
    refine ⟨nodup_paths hrules h.keys_nodup hcards, ⟨answers.names, ?_⟩,
      fun c hc => (hcards c hc).value,
      fun key metrics request hr => path_request_eq_iff hrules h hcards hr⟩
    rw [hlookups, Survey.Answers.lookups, hshown.valueLookups,
      hstart.map_run actions Card.valueLookup fun _ => rfl]
    rfl

/-- A hall where some names go on where others end. -/
def hall : Gateway where
  devices := .ok ["hall"]
  sensors _ := .ok [".9", ".9.5700", ".3303", ".3303.5700"]
  value _ _ := .ok ⟨none, .flag true⟩
  history _ _ := .ok []

/-- With a rule that has an empty suffix, the resource of one sensor of the hall is the name of
another one. Still no two of its cards ask by one path, and with one of them open a click on another
asks by a path of its own. -/
theorem resources_distinct_hall :
    let rules := RuleTable.withOverrides [⟨"9", "", "lux", ""⟩]
    let metrics : Metrics := ⟨1200.0, 300.0⟩
    let request : HistoryRequest := ⟨⟨"hall", ".3303"⟩, ".3303.5700", 2⟩
    rules.isDotted = true ∧ ∃ d, (Survey.run rules hall).result = .ok d ∧
      let b := (ofDashboard d).run [.toggle ⟨"hall", ".9.5700"⟩ metrics]
      (b.cards.map fun c => c.sensor.resource) =
        [".9", ".9.5700", ".3303.5700", ".3303.5700.5700"] ∧
      ((b.cards.map Card.valueLookup ++ b.cards.map Card.historyLookup).map Lookup.path).Nodup ∧
      (b.toggle request.key metrics).1.request? = some request ∧
      ∀ c ∈ b.cards, c.historyLookup.path = request.lookup.path ↔ c.key = request.key := by
  intro rules metrics request
  have hrules : rules.isDotted = true := by decide +kernel
  obtain ⟨_, _, _, hboards⟩ := resources_distinct rules hrules
  refine ⟨hrules, _, rfl, rfl, ?_⟩
  obtain ⟨hpaths, _, _, hrequests⟩ := hboards hall _ rfl [.toggle ⟨"hall", ".9.5700"⟩ metrics]
  refine ⟨hpaths, ?_, hrequests request.key metrics request ?_⟩ <;> decide +kernel

end Board

end SensorBoard
