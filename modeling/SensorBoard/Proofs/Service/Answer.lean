import SensorBoard.Proofs.Board.Panel
import SensorBoard.Proofs.Keyed
import SensorBoard.Proofs.Service.Run

/-!
# Answers to clicks

A click whose history is fetched is answered only after other requests were served. The answer then
tells where the panel is, whoever owns it by that time, and it tells where the panel was placed if
there is no board any more. So it describes the clicked card exactly if the board is still there and
shows no other card (`describes_iff_keepsPanel`). The chart is always that of the clicked card.
-/

namespace SensorBoard

/-! ## Reports as JSON -/

namespace ToggleReport

theorem find?_optional (key name : String) (j : Option Json) :
    Keyed.find? key (optional name j) = if key = name then j else none := by
  cases j <;> simp [optional, Keyed.find?]

@[simp] theorem find?_members_detailSlot (state : CardState) :
    Keyed.find? "detail_slot" state.members = none := by
  cases state <;> simp [CardState.members, Keyed.find?]

@[simp] theorem find?_members_chart (state : CardState) :
    Keyed.find? "chart" state.members = none := by
  cases state <;> simp [CardState.members, Keyed.find?]

@[simp] theorem member?_detailSlot (r : ToggleReport) :
    r.toJson.member? "detail_slot" = r.detailSlot.map Json.nat := by
  obtain ⟨state, _⟩ := r
  cases state <;> simp [toJson, Json.member?, Keyed.find?_append, find?_optional]

@[simp] theorem member?_chart (r : ToggleReport) :
    r.toJson.member? "chart" = r.chart.map Chart.toJson := by
  obtain ⟨state, _⟩ := r
  cases state <;> simp [toJson, Json.member?, Keyed.find?_append, find?_optional]

/-- The state of a card that is not closed is told by another word. -/
theorem member?_state {r : ToggleReport} {state : CardState} (h : r.state = some state)
    (hopen : state ≠ .closed) :
    ∃ word, r.toJson.member? "state" = some (.text word) ∧ word ≠ "closed" := by
  rw [toJson, h]
  cases state with
  | closed => exact absurd rfl hopen
  | opening ticket =>
    exact ⟨"opening", by simp [Json.member?, CardState.members, Keyed.find?], by decide⟩
  | opened => exact ⟨"open", by simp [Json.member?, CardState.members, Keyed.find?], by decide⟩

end ToggleReport

namespace Service

/-! ## What an answer says -/

/-- The slot that is told is that of the panel of the card, which is not told to be closed. -/
def DescribesSlot (s : Service) (key : CardKey) (told : Json) : Prop :=
  ∀ j, told.member? "detail_slot" = some j → ∃ board panel slot,
    s.board = some board ∧ board.panel = some panel ∧ panel.owner = key ∧
      board.grid.detailSlot? = some slot ∧ j = .nat slot ∧
        ∃ state, told.member? "state" = some (.text state) ∧ state ≠ "closed"

/-- The chart that is told is that of the card, which owns the panel. -/
def DescribesChart (s : Service) (key : CardKey) (told : Json) : Prop :=
  ∀ j, told.member? "chart" = some j → ∃ board panel card chart,
    s.board = some board ∧ board.panel = some panel ∧ panel.owner = key ∧
      board.card? key = some card ∧ card.chart? = some chart ∧ j = chart.toJson

/-- The board is there, and no other card than this one has the panel. -/
def KeepsPanel (s : Service) (key : CardKey) : Prop :=
  ∃ board, s.board = some board ∧ ∀ panel, board.panel = some panel → panel.owner = key

/-- The history of a placed click is delivered amid other steps, and then the click is answered. -/
def deliverAmid (during after : List Step) (request : HistoryRequest)
    (answer : Except LookupError (List HistoryPoint)) (toggle : PlacedToggle) (s : Service) :
    PlacedToggle × Service :=
  let (toggle, s) := (s.run during).deliver request answer toggle
  (toggle, s.run after)

end Service

/-! ## Clicks that wait for a history -/

/-- Nothing is reported yet of the click but where the panel was placed. -/
structure PlacedToggle.Awaiting (toggle : PlacedToggle) : Prop where
  state : toggle.report.state = none
  chart : toggle.report.chart = none
  slot : toggle.report.detailSlot.isSome = true

variable {s : Service} {toggle : PlacedToggle} {request : HistoryRequest}
  {answer : Except LookupError (List HistoryPoint)}

theorem PlacedToggle.Awaiting.deliver (h : toggle.Awaiting) (s : Service) (request : HistoryRequest)
    (answer : Except LookupError (List HistoryPoint)) :
    (s.deliver request answer toggle).1.Awaiting := by
  rw [Service.deliver]
  cases s.board with
  | none => exact h
  | some board =>
    -- a delivery adds no more than a banner
    cases hdelivery : (board.deliver request answer).1 <;>
      simp only [hdelivery, Service.noted] <;> exact ⟨h.state, h.chart, h.slot⟩

namespace Service

theorem key_deliver (s : Service) (toggle : PlacedToggle) (request : HistoryRequest)
    (answer : Except LookupError (List HistoryPoint)) :
    (s.deliver request answer toggle).1.key = toggle.key := by
  rw [deliver]
  cases s.board <;> rfl

theorem detailSlot_deliver (s : Service) (toggle : PlacedToggle) (request : HistoryRequest)
    (answer : Except LookupError (List HistoryPoint)) :
    (s.deliver request answer toggle).1.report.detailSlot = toggle.report.detailSlot := by
  rw [deliver]
  cases s.board with
  | none => rfl
  | some board =>
    cases hdelivery : (board.deliver request answer).1 <;> simp only [hdelivery, noted]

theorem awaiting_of_placedOf? {key : CardKey} {outcome : ToggleOutcome}
    (hplaced : placedOf? key outcome = some toggle) (hrequest : toggle.request = some request) :
    toggle.Awaiting := by
  cases outcome with
  | opening placement slot _ =>
    cases hplaced
    exact ⟨rfl, rfl, rfl⟩
  | unknown => cases hplaced
  | _ =>
    -- no other outcome asks for a history
    cases hplaced
    cases hrequest

theorem awaiting_of_receive {r : Request} (hplaced : (s.receive r).1 = .placed toggle)
    (hrequest : toggle.request = some request) : toggle.Awaiting := by
  have step := receive_step r s
  rw [hplaced] at step
  generalize (s.receive r).2 = s' at step
  cases step with
  | unchanged hnot => exact absurd rfl (hnot toggle)
  | placed _ hplaced => exact awaiting_of_placedOf? hplaced hrequest

/-! ## What is told -/

theorem report_of_no_board (hboard : s.board = none) : s.report toggle = toggle.report := by
  rw [report, hboard]

theorem report_of_board {board : Board} (hboard : s.board = some board) (h : toggle.Awaiting) :
    s.report toggle = { toggle.report with
      state := (board.card? toggle.key).map Card.state
      detailSlot := board.grid.detailSlot?
      chart := (board.panelOf? toggle.key).bind Panel.chart } := by
  simp only [report, hboard, h.slot, if_true]

/-- The chart is that of the card, whatever else is told. -/
theorem describesChart_report (hs : s.Consistent) (h : toggle.Awaiting) :
    s.DescribesChart toggle.key (s.report toggle).toJson := by
  intro j hj
  rw [ToggleReport.member?_chart] at hj
  cases hboard : s.board with
  | none =>
    rw [report_of_no_board hboard, h.chart] at hj
    cases hj
  | some board =>
    rw [report_of_board hboard h] at hj
    obtain ⟨chart, hchart, rfl⟩ := Option.map_eq_some_iff.mp hj
    obtain ⟨panel, hpanel, hchart⟩ := Option.bind_eq_some_iff.mp hchart
    obtain ⟨hpanel, howner⟩ := Option.filter_eq_some_iff.mp hpanel
    have howner : panel.owner = toggle.key := by simpa using howner
    obtain ⟨card, hcard, _, heq, _⟩ := (hs board hboard).coherent.chart panel hpanel
    exact ⟨board, panel, card, chart, rfl, hpanel, howner, howner ▸ hcard, heq ▸ hchart, rfl⟩

theorem describesSlot_report_iff (hs : s.Consistent) (h : toggle.Awaiting) :
    s.DescribesSlot toggle.key (s.report toggle).toJson ↔ s.KeepsPanel toggle.key := by
  cases hboard : s.board with
  | none =>
    -- without a board the slot is still told
    obtain ⟨slot, hslot⟩ := Option.isSome_iff_exists.mp h.slot
    have htold : (s.report toggle).toJson.member? "detail_slot" = some (.nat slot) := by
      rw [ToggleReport.member?_detailSlot, report_of_no_board hboard, hslot]
      rfl
    constructor
    · intro hdescribes
      obtain ⟨board, _, _, hb, _⟩ := hdescribes _ htold
      cases hboard.symm.trans hb
    · rintro ⟨board, hb, _⟩
      cases hboard.symm.trans hb
  | some board =>
    have hcoherent := (hs board hboard).coherent
    have htold : (s.report toggle).toJson.member? "detail_slot" =
        board.grid.detailSlot?.map Json.nat := by
      rw [ToggleReport.member?_detailSlot, report_of_board hboard h]
    constructor
    · -- a panel has a slot, which is told, so it has to be that of the card
      intro hdescribes
      refine ⟨board, hboard, fun panel hpanel => ?_⟩
      have hdetail := hcoherent.panel_iff_detail.mp (by rw [hpanel]; rfl)
      obtain ⟨slot, hslot⟩ := Option.isSome_iff_exists.mp hdetail
      obtain ⟨board', panel', _, hb, hp, howner, _⟩ := hdescribes _ (by rw [htold, hslot]; rfl)
      cases hboard.symm.trans hb
      cases hpanel.symm.trans hp
      exact howner
    · rintro ⟨board', hb, howner⟩ j hj
      cases hboard.symm.trans hb
      rw [htold] at hj
      obtain ⟨slot, hslot, rfl⟩ := Option.map_eq_some_iff.mp hj
      have hdetail := hcoherent.panel_iff_detail.mpr (by rw [hslot]; rfl)
      obtain ⟨panel, hpanel⟩ := Option.isSome_iff_exists.mp hdetail
      -- the owner of the panel is open, and it is the card of the click
      obtain ⟨card, hcard, hopen, _⟩ := hcoherent.chart panel hpanel
      have hstate : (s.report toggle).state = some card.state := by
        rw [report_of_board hboard h, ← howner panel hpanel, hcard]
        rfl
      exact ⟨board, panel, slot, hboard, hpanel, howner panel hpanel, hslot, rfl,
        ToggleReport.member?_state hstate hopen⟩

section Answered

variable (before during after : List Step) (r : Request)

/-- The service when a click is answered, and the click. -/
theorem answered_facts (answer : Except LookupError (List HistoryPoint))
    (hplaced : ((start.run before).receive r).1 = .placed toggle)
    (hrequest : toggle.request = some request) :
    let answered := ((start.run before).receive r).2.deliverAmid during after request answer toggle
    answered.1.Awaiting ∧ answered.1.key = toggle.key ∧ answered.2.Consistent := by
  have hs := ((consistent_run_start before).receive r).run during
  exact ⟨(awaiting_of_receive hplaced hrequest).deliver _ _ _, key_deliver _ toggle request answer,
    (hs.deliver request answer toggle).run after⟩

theorem describesSlot_answered_iff (answer : Except LookupError (List HistoryPoint))
    (hplaced : ((start.run before).receive r).1 = .placed toggle)
    (hrequest : toggle.request = some request) :
    let answered := ((start.run before).receive r).2.deliverAmid during after request answer toggle
    answered.2.DescribesSlot toggle.key (answered.2.report answered.1).toJson ↔
      answered.2.KeepsPanel toggle.key := by
  intro answered
  obtain ⟨hawaiting, hkey, hs⟩ := answered_facts before during after r answer hplaced hrequest
  rw [← hkey]
  exact describesSlot_report_iff hs hawaiting

end Answered

theorem deliverAmid_snd (during after : List Step) (request : HistoryRequest)
    (answer : Except LookupError (List HistoryPoint)) (toggle : PlacedToggle) (s : Service) :
    (s.deliverAmid during after request answer toggle).2 =
      run { s.run during with
        board := (s.run during).board.map fun b => (b.deliver request answer).2 } after := by
  rw [← deliver_snd request answer toggle]
  rfl

theorem keepsPanel_iff_of_owner {key owner : CardKey}
    (h : (s.board.bind Board.panel).map Panel.owner = some owner) :
    s.KeepsPanel key ↔ owner = key := by
  obtain ⟨panel, hpanel, rfl⟩ := Option.map_eq_some_iff.mp h
  obtain ⟨board, hboard, hpanel⟩ := Option.bind_eq_some_iff.mp hpanel
  constructor
  · rintro ⟨board', hboard', howner⟩
    cases hboard.symm.trans hboard'
    exact howner panel hpanel
  · rintro rfl
    refine ⟨board, hboard, fun panel' hpanel' => ?_⟩
    rw [Option.some.inj (hpanel.symm.trans hpanel')]

/-! ## Clicks on the porch -/

/-- A click on a card of the porch. -/
def porchClick (sensor : String) : Request where
  method := .post
  target := "/api/devices/porch/sensors/" ++ sensor ++ "/toggle"
  contentType := some "application/json"
  body := "[1200,300]"

/-- The porch once it was surveyed. -/
def porchSteps : List Step := [.reload 1 .builtin Survey.porch]

/-- What is asked for when the thermometer is opened first. -/
def porchRequest : HistoryRequest := ⟨⟨"porch", ".3303.0"⟩, ".3303.0.5700", 1⟩

theorem ofTarget?_porchClick :
    Route.ofTarget? (porchClick ".3303.0").target = some (.toggle "porch" ".3303.0") := by
  decide +kernel

theorem click_porchClick : click "porch" ".3303.0" (porchClick ".3303.0") =
    .ok (porchRequest.key, ⟨1200.0, 300.0⟩) := rfl

theorem receive_porchClick :
    ∃ toggle, ((start.run porchSteps).receive (porchClick ".3303.0")).1 = .placed toggle ∧
      toggle.key = porchRequest.key ∧ toggle.request = some porchRequest := by
  have h : (((start.run porchSteps).receive (porchClick ".3303.0")).1.toggle?.map
      fun toggle => (toggle.key, toggle.request)) = some (porchRequest.key, some porchRequest) := by
    decide +kernel
  obtain ⟨toggle, htoggle, heq⟩ := Option.map_eq_some_iff.mp h
  obtain ⟨hkey, hrequest⟩ := Prod.mk.inj heq
  exact ⟨toggle, Received.toggle?_eq_some_iff.mp htoggle, hkey, hrequest⟩

/-- While the history of the thermometer is fetched, another card of the porch is clicked. -/
def porchAnswered (other : String) (toggle : PlacedToggle) : PlacedToggle × Service :=
  ((start.run porchSteps).receive (porchClick ".3303.0")).2.deliverAmid
    [.receive (porchClick other)] [] porchRequest (.ok []) toggle

/-! ## The main statement -/

/-- A click that waits for a history is answered with the place of the panel, whoever has it by
then, and with the place where it was put if the board is gone. So the answer describes the card that
was clicked exactly if the board is still there and no other card has the panel. The chart is always
that of the card that was clicked. -/
theorem describes_iff_keepsPanel (before during after : List Step) (r : Request)
    (answer : Except LookupError (List HistoryPoint))
    (hplaced : ((start.run before).receive r).1 = .placed toggle)
    (hrequest : toggle.request = some request) :
    let answered := ((start.run before).receive r).2.deliverAmid during after request answer toggle
    let s := answered.2
    ∃ told, s.answerToggle answered.1 = .ofBody 200 (.json told) ∧
      (s.DescribesSlot toggle.key told ∧ s.DescribesChart toggle.key told ↔
        s.KeepsPanel toggle.key) ∧
      s.DescribesChart toggle.key told ∧
      (∀ board, s.board = some board →
        told.member? "detail_slot" = board.grid.detailSlot?.map .nat) ∧
      (s.board = none → told.member? "detail_slot" = toggle.report.detailSlot.map .nat) := by
  intro answered s
  obtain ⟨hawaiting, hkey, hs⟩ := answered_facts before during after r answer hplaced hrequest
  have hslot := describesSlot_answered_iff before during after r answer hplaced hrequest
  have hchart := describesChart_report hs hawaiting
  rw [hkey] at hchart
  refine ⟨(s.report answered.1).toJson, rfl, ?_, hchart, ?_, ?_⟩
  · exact (and_iff_left hchart).trans hslot
  · intro board hboard
    rw [ToggleReport.member?_detailSlot, report_of_board hboard hawaiting]
  · intro hboard
    rw [ToggleReport.member?_detailSlot, report_of_no_board hboard]
    exact congrArg (Option.map Json.nat) (detailSlot_deliver _ toggle request answer)

/-- Switching the lamp leaves the panel to the thermometer. -/
theorem describes_iff_keepsPanel_porch :
    ∃ toggle, ((start.run porchSteps).receive (porchClick ".3303.0")).1 = .placed toggle ∧
      toggle.request = some porchRequest ∧
      let (waited, s) := porchAnswered ".1024.0" toggle
      ∃ told, s.answerToggle waited = .ofBody 200 (.json told) ∧
        s.DescribesSlot toggle.key told ∧ s.DescribesChart toggle.key told := by
  obtain ⟨toggle, hplaced, hkey, hrequest⟩ := receive_porchClick
  have howner : ((porchAnswered ".1024.0" toggle).2.board.bind Board.panel).map Panel.owner =
      some porchRequest.key := by
    rw [porchAnswered, deliverAmid_snd]
    decide +kernel
  obtain ⟨told, htold, hiff, _⟩ := describes_iff_keepsPanel porchSteps
    [.receive (porchClick ".1024.0")] [] (porchClick ".3303.0") (.ok []) hplaced hrequest
  exact ⟨toggle, hplaced, hrequest, told, htold,
    hiff.mpr ((keepsPanel_iff_of_owner howner).mpr hkey.symm)⟩

/-- If the hygrometer is opened instead, the answer to the click on the thermometer tells where the
panel of the hygrometer is. -/
theorem not_forall_describes :
    ¬ ∀ (before during after : List Step) (r : Request)
      (answer : Except LookupError (List HistoryPoint)) (toggle : PlacedToggle)
      (request : HistoryRequest), ((start.run before).receive r).1 = .placed toggle →
      toggle.request = some request →
      let placed := ((start.run before).receive r).2
      let answered := placed.deliverAmid during after request answer toggle
      ∀ told, answered.2.answerToggle answered.1 = .ofBody 200 (.json told) →
        answered.2.DescribesSlot toggle.key told ∧ answered.2.DescribesChart toggle.key told := by
  intro hall
  obtain ⟨toggle, hplaced, hkey, hrequest⟩ := receive_porchClick
  have howner : ((porchAnswered ".3304.0" toggle).2.board.bind Board.panel).map Panel.owner =
      some ⟨"porch", ".3304.0"⟩ := by
    rw [porchAnswered, deliverAmid_snd]
    decide +kernel
  obtain ⟨hslot, _⟩ := hall porchSteps [.receive (porchClick ".3304.0")] [] (porchClick ".3303.0")
    (.ok []) toggle porchRequest hplaced hrequest _ rfl
  have hkeeps := (describesSlot_answered_iff porchSteps [.receive (porchClick ".3304.0")] []
    (porchClick ".3303.0") (.ok []) hplaced hrequest).mp hslot
  have heq := (keepsPanel_iff_of_owner howner).mp hkeeps
  rw [hkey] at heq
  exact absurd heq (by decide)

end Service

end SensorBoard
