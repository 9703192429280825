import Mathlib.Data.Nat.Bits
import SensorBoard.Proofs.Board.Identity

/-!
# Lamps

A lamp is what the survey found, switched once by every click on it and by nothing else
(`lamp_eq_parity`). Such a click touches nothing but the lamp: an answer that comes after it does
what it would have done before it.
-/

namespace SensorBoard

/-! ## Lamps that are switched many times -/

namespace Card

/-- The card after it was switched so many times. -/
def switchedBy (n : Nat) (c : Card) : Card := { c with lamp := c.lamp.map fun on => on ^^ n.bodd }

@[simp] theorem key_switch (c : Card) : c.switch.key = c.key := rfl

@[simp] theorem isLamp_switch (c : Card) : c.switch.isLamp = c.isLamp := by
  rw [isLamp, switch, Option.isSome_map, isLamp]

@[simp] theorem switchedBy_zero (c : Card) : c.switchedBy 0 = c := by
  obtain ⟨_, _, _, _, _, lamp⟩ := c
  cases lamp <;> simp [switchedBy]

theorem switchedBy_switch (n : Nat) (c : Card) : c.switch.switchedBy n = c.switchedBy (n + 1) := by
  -- one more time is odd where the rest is even
  obtain ⟨_, _, _, _, _, lamp⟩ := c
  cases lamp <;> simp [switchedBy, switch]

end Card

namespace Board

variable {b : Board}

/-- Is it a click on the card with the key? -/
def Action.clicksOn (key : CardKey) : Action → Bool
  | .toggle k _ => k == key
  | .deliver _ _ => false

/-- The number of clicks on a card along a run. -/
def clicksOn (key : CardKey) (actions : List Action) : Nat := actions.countP (Action.clicksOn key)

/-! ## What happens to a lamp -/

theorem cards_replaceCard_getElem? (b : Board) (card : Card) (i : Nat) :
    (b.replaceCard card).cards[i]? =
      b.cards[i]?.map fun c => if c.key == card.key then card else c :=
  List.getElem?_map

/-- Putting a card back into its place touches no other place. -/
theorem replaceCard_eq_set (hkeys : b.keys.Nodup) {i : Nat} {c card : Card}
    (hc : b.cards[i]? = some c) (hkey : card.key = c.key) :
    b.replaceCard card = { b with cards := b.cards.set i card } := by
  have hlt : i < b.cards.length := (List.getElem?_eq_some_iff.mp hc).1
  rw [replaceCard, Board.mk.injEq]
  refine ⟨rfl, List.ext_getElem? fun j => ?_, rfl, rfl, rfl⟩
  rw [List.getElem?_map, List.getElem?_set]
  by_cases hij : i = j
  · subst hij
    rw [hc, Option.map_some, if_pos (by simp [hkey]), if_pos rfl, if_pos hlt]
  · rw [if_neg hij]
    cases hj : b.cards[j]? with
    | none => rfl
    | some c' =>
      -- a card in another place has another key
      have hne : c'.key ≠ card.key := by
        intro heq
        refine hij ((List.getElem?_inj (by simpa [keys] using hlt) hkeys).mp ?_)
        rw [keys_getElem? hc, keys_getElem? hj, heq, hkey]
      simp [hne]

/-- A click switches a lamp if it is a click on it, and leaves it as it is if not. -/
theorem ToggleStep.lamp {key : CardKey} {metrics : Metrics} {outcome : ToggleOutcome} {b' : Board}
    (step : b.ToggleStep key metrics outcome b') (h : b.Consistent) {i : Nat} {c : Card}
    (hc : b.cards[i]? = some c) (hlamp : c.isLamp = true) :
    b'.cards[i]? = some (if key == c.key then c.switch else c) := by
  have hmem := List.mem_of_getElem? hc
  -- a card that is no lamp has another key
  have hother : ∀ {card : Card}, card ∈ b.cards → card.isLamp = false → card.key ≠ c.key := by
    intro card hcard hnot heq
    rw [eq_of_key_eq h.keys_nodup hcard hmem heq, hlamp] at hnot
    cases hnot
  have hcleared : b.cleared.cards[i]? = some c := by
    rw [cleared, List.getElem?_map, hc, Option.map_some,
      Card.close_of_isOpen_eq_false (h.lamps c hmem hlamp).1]
  cases step with
  | unknown hnot =>
    have hne : key ≠ c.key := fun heq => hnot (heq ▸ key_mem_keys hmem)
    simpa [hne] using hc
  | @switched card _ hcard hk _ =>
    subst hk
    rw [cards_replaceCard_getElem?, hc, Card.key_switch, Option.map_some]
    by_cases hkey : card.key = c.key
    · obtain rfl := eq_of_key_eq h.keys_nodup hcard hmem hkey
      simp
    · simp [hkey, Ne.symm hkey]
  | closed hcard hk hnot _ =>
    subst hk
    simpa [hother hcard hnot] using hcleared
  | @opened card hcard hk hnot _ =>
    subst hk
    show (b.cleared.replaceCard (card.beginOpen _)).cards[i]? = _
    rw [cards_replaceCard_getElem?, hcleared, Option.map_some, Card.key_beginOpen]
    simp [hother hcard hnot, Ne.symm (hother hcard hnot)]

/-- No answer reaches a lamp. -/
theorem DeliverStep.lamp {request : HistoryRequest}
    {answer : Except LookupError (List HistoryPoint)} {delivery : Delivery} {b' : Board}
    (step : b.DeliverStep request answer delivery b') (h : b.Consistent) {i : Nat} {c : Card}
    (hc : b.cards[i]? = some c) (hlamp : c.isLamp = true) : b'.cards[i]? = some c := by
  cases step with
  | stale _ => exact hc
  | @taken card hshows _ _ =>
    have hne := hshows.key_ne_of_lamp h (List.mem_of_getElem? hc) hlamp
    show (b.replaceCard (card.settle answer)).cards[i]? = _
    rw [cards_replaceCard_getElem?, hc]
    simp [Ne.symm hne]

theorem Consistent.lamp_perform (h : b.Consistent) {i : Nat} {c : Card} (hc : b.cards[i]? = some c)
    (hlamp : c.isLamp = true) (action : Action) :
    (b.perform action).cards[i]? = some (if action.clicksOn c.key then c.switch else c) := by
  cases action with
  | toggle key metrics => exact (toggle_step h key metrics).lamp h hc hlamp
  | deliver request answer => exact (deliver_step h request answer).lamp h hc hlamp

/-- Along a run a lamp is switched as often as it is clicked. -/
theorem Consistent.lamp_run (h : b.Consistent) {i : Nat} {c : Card} (hc : b.cards[i]? = some c)
    (hlamp : c.isLamp = true) (actions : List Action) :
    (b.run actions).cards[i]? = some (c.switchedBy (clicksOn c.key actions)) := by
  induction actions generalizing b c with
  | nil => rwa [run_nil, clicksOn, List.countP_nil, Card.switchedBy_zero]
  | cons action rest ih =>
    have hnext := h.lamp_perform hc hlamp action
    rw [run_cons, clicksOn, List.countP_cons]
    cases hclick : action.clicksOn c.key with
    | true =>
      rw [hclick, if_pos rfl] at hnext
      rw [ih (h.perform action) hnext (by simpa using hlamp), Card.switchedBy_switch]
      rfl
    | false =>
      rw [hclick] at hnext
      exact ih (h.perform action) hnext hlamp

/-! ## What a click on a lamp touches -/

theorem replaceCard_comm (b : Board) {c card : Card} (hne : c.key ≠ card.key) :
    (b.replaceCard c).replaceCard card = (b.replaceCard card).replaceCard c := by
  simp only [replaceCard, List.map_map, Board.mk.injEq, true_and, and_true]
  refine List.map_congr_left fun c' _ => ?_
  by_cases hc : c'.key = c.key
  · simp [hc, hne]
  · by_cases hcard : c'.key = card.key <;> simp [hc, hcard, Ne.symm hne]

/-- Switching a lamp and taking an answer do not interfere: in either order the answer does the
same, and the board is the same in the end. -/
theorem Consistent.deliver_switch (h : b.Consistent) {c : Card} (hmem : c ∈ b.cards)
    (hlamp : c.isLamp = true) (request : HistoryRequest)
    (answer : Except LookupError (List HistoryPoint)) :
    (b.replaceCard c.switch).deliver request answer =
      ((b.deliver request answer).1, (b.deliver request answer).2.replaceCard c.switch) := by
  have hclosed : c.switch.isOpen = false := (h.lamps c hmem hlamp).1
  have step := deliver_step h request answer
  generalize (b.deliver request answer).1 = delivery at step ⊢
  generalize (b.deliver request answer).2 = b' at step ⊢
  cases step with
  | stale hwait =>
    -- the lamp that was switched waits for nothing either
    refine deliver_of_not_waiting ?_ answer
    apply forall_mem_replaceCard
    · intro _ hstate
      rw [Card.isOpen_of_opening hstate] at hclosed
      cases hclosed
    · exact fun c' hc' _ => hwait c' hc'
  | @taken card hshows hkey hstate =>
    have hne := hshows.key_ne_of_lamp h hmem hlamp
    rw [deliver_of_waiting (h.switch hmem hlamp) (hshows.replaceCard hclosed hne) hkey hstate]
    -- the two cards that are put back stand in different places
    have hkeys : c.switch.key ≠ (card.settle answer).key := by simpa using Ne.symm hne
    have hcomm := b.replaceCard_comm hkeys
    rw [Board.settled, hcomm]
    rfl

/-- A click on a lamp and an answer can change places. -/
theorem Consistent.toggle_lamp_deliver (h : b.Consistent) {i : Nat} {c : Card}
    (hc : b.cards[i]? = some c) {on : Bool} (hlamp : c.lamp = some on) (metrics : Metrics)
    (request : HistoryRequest) (answer : Except LookupError (List HistoryPoint)) :
    (b.toggle c.key metrics).2.deliver request answer =
      ((b.deliver request answer).1, ((b.deliver request answer).2.toggle c.key metrics).2) := by
  have hislamp := Card.isLamp_of_lamp_eq_some hlamp
  have hmem := List.mem_of_getElem? hc
  -- the answer leaves the lamp where it is
  have hlater := List.mem_of_getElem? ((deliver_step h request answer).lamp h hc hislamp)
  rw [toggle_of_lamp h hmem hlamp, toggle_of_lamp (h.deliver request answer) hlater hlamp]
  exact h.deliver_switch hmem hislamp request answer

/-! ## The main statement -/

/-- The lamps of a successful survey, whatever was clicked and whatever answers came, made-up ones
among them: a lamp is as it was found if it was clicked an even number of times, and the other way
if not. A click on it tells the new state and changes nothing but this lamp, so that an answer does
the same before and after it; and nothing but a click on it changes it. -/
theorem lamp_eq_parity {rules : RuleTable} {gateway : Gateway} {d : Dashboard}
    (hsurvey : (Survey.run rules gateway).result = .ok d) (actions : List Action) :
    let b := (ofDashboard d).run actions
    ∀ i c, d.cards[i]? = some c → c.sensor.quantity = .bulb →
      let on := c.sensor.value.isOn ^^ (clicksOn c.key actions).bodd
      b.cards[i]? = some { c with lamp := some on } ∧
      b.cards[i]?.map Card.display = some (if on then "ON" else "OFF") ∧
      (∀ metrics, b.toggle c.key metrics =
        (.switched !on, { b with cards := b.cards.set i { c with lamp := some !on } })) ∧
      (∀ metrics request answer, (b.toggle c.key metrics).2.deliver request answer =
        ((b.deliver request answer).1, ((b.deliver request answer).2.toggle c.key metrics).2)) ∧
      ∀ action, action.clicksOn c.key = false → (b.perform action).cards[i]? = b.cards[i]? := by
  intro b i c hc hbulb on
  have hfresh := Survey.fresh_of_run hsurvey
  have hstart := consistent_ofDashboard hfresh
  have h : b.Consistent := hstart.run actions
  have hfound : c.lamp = some c.sensor.value.isOn := by
    obtain ⟨device, sensor, rule, rfl⟩ := hfresh.ofRecord c (List.mem_of_getElem? hc)
    exact if_pos hbulb
  have hcard : b.cards[i]? = some { c with lamp := some on } := by
    have hrun := hstart.lamp_run hc (Card.isLamp_of_lamp_eq_some hfound) actions
    rwa [Card.switchedBy, hfound] at hrun
  have hmem := List.mem_of_getElem? hcard
  refine ⟨hcard, ?_, fun metrics => ?_, ?_, fun action hnot => ?_⟩
  · rw [hcard, Option.map_some, Card.display]
    cases on <;> rfl
  · have hset := replaceCard_eq_set h.keys_nodup hcard (Card.key_switch _)
    exact (toggle_of_lamp h hmem rfl metrics).trans (congrArg (Prod.mk _) hset)
  · have hchange := h.toggle_lamp_deliver hcard rfl
    exact hchange
  · rw [h.lamp_perform hcard rfl action, hcard]
    exact congrArg some (if_neg (Bool.eq_false_iff.mp hnot))

/-- On the porch the thermometer is opened, the light is switched off, and an answer comes for the
light, which is made up. Switching the light on again leaves the thermometer waiting: its history
is drawn when it comes. -/
theorem lamp_eq_parity_porch :
    let light : CardKey := ⟨"porch", ".1024.0"⟩
    let actions := [.toggle ⟨"porch", ".3303.0"⟩ ⟨1200.0, 300.0⟩, .toggle light ⟨0.0, 0.0⟩,
      .deliver ⟨light, "", 1⟩ (.ok [])]
    let b := (ofDashboard Survey.porchDashboard).run actions
    (Survey.run .builtin Survey.porch).result = .ok Survey.porchDashboard ∧
      b.cards[1]?.map Card.display = some "OFF" ∧
      (b.toggle light ⟨0.0, 0.0⟩).1 = .switched true ∧
      ∃ chart, ((b.toggle light ⟨0.0, 0.0⟩).2.deliver ⟨⟨"porch", ".3303.0"⟩, ".3303.0.5700", 1⟩
        (.ok [])).1 = .rendered chart := by
  intro light actions b
  obtain ⟨c, hc, hkey, hbulb, hon⟩ : ∃ c, Survey.porchDashboard.cards[1]? = some c ∧
      c.key = light ∧ c.sensor.quantity = .bulb ∧ c.sensor.value.isOn = true :=
    ⟨_, rfl, rfl, rfl, by decide +kernel⟩
  obtain ⟨_, hdisplay, hclick, hchange, _⟩ := lamp_eq_parity Survey.run_porch actions 1 c hc hbulb
  have hclicks : clicksOn light actions = 1 := by decide +kernel
  rw [hkey, hon, hclicks] at hdisplay hclick
  rw [hkey] at hchange
  refine ⟨Survey.run_porch, hdisplay, congrArg Prod.fst (hclick _), ?_⟩
  rw [hchange]
  exact ⟨_, rfl⟩

end Board

end SensorBoard
