import SensorBoard.Proofs.Board.Run

/-!
# One card, one place

A card is found in three ways: a table of places, made once from the keys of a fresh board, the
first slot of the grid that holds its key, and its place among the cards. On the board of a
successful survey the three agree whatever has happened (`place_of_key`): no key stands twice, and
neither clicks nor answers move a card. So a click that opens a card finds it where it stands, with
or without a panel in front of it, and a click is lost only if no card has its key.
-/

namespace SensorBoard

/-- Where a click has placed the panel, if it has opened a card. -/
def ToggleOutcome.placement? : ToggleOutcome → Option Placement
  | opened placement _ => some placement
  | opening placement _ _ => some placement
  | _ => none

/-! ## Tables of places -/

namespace CardKey

/-- The place that a table gives for a key, when the keys were entered in their order and a later
entry took the place of an earlier one. -/
def lastPlace? (key : CardKey) : List CardKey → Option Nat
  | [] => none
  | k :: rest => ((lastPlace? key rest).map Nat.succ).or (if k = key then some 0 else none)

theorem lastPlace?_of_notMem {key : CardKey} {keys : List CardKey} (h : key ∉ keys) :
    lastPlace? key keys = none := by
  induction keys with
  | nil => rfl
  | cons k rest ih =>
    have hrest : key ∉ rest := fun hmem => h (List.mem_cons_of_mem _ hmem)
    have hne : k ≠ key := fun heq => h (heq ▸ List.mem_cons_self ..)
    rw [lastPlace?, ih hrest, if_neg hne]
    rfl

/-- Where no key stands twice, the last place of a key is its only one. -/
theorem lastPlace?_of_getElem? {key : CardKey} {keys : List CardKey} (hkeys : keys.Nodup) {i : Nat}
    (h : keys[i]? = some key) : lastPlace? key keys = some i := by
  induction keys generalizing i with
  | nil => cases h
  | cons k rest ih =>
    obtain ⟨hnot, hrest⟩ := List.nodup_cons.mp hkeys
    cases i with
    | zero =>
      obtain rfl := Option.some.inj h
      rw [lastPlace?, lastPlace?_of_notMem hnot, if_pos rfl]
      rfl
    | succ i =>
      rw [List.getElem?_cons_succ] at h
      rw [lastPlace?, ih hrest h]
      rfl

end CardKey

namespace Board

variable {b : Board}

/-! ## Places on a board -/

theorem keys_eq_of_blanks_eq {b' : Board} (h : b'.blanks = b.blanks) : b'.keys = b.keys := by
  -- the key of a card can be read off what was there before any click
  have hread : ∀ b : Board, b.keys = b.blanks.map Card.key := by
    intro b
    rw [blanks, List.map_map]
    rfl
  rw [hread, hread, h]

/-- No card is moved. -/
theorem Consistent.keys_run (h : b.Consistent) (actions : List Action) :
    (b.run actions).keys = b.keys :=
  keys_eq_of_blanks_eq (h.blanks_run actions)

theorem keys_getElem? {i : Nat} {c : Card} (hc : b.cards[i]? = some c) :
    b.keys[i]? = some c.key := by
  rw [keys, List.getElem?_map, hc]
  rfl

theorem Consistent.idxOf_key (h : b.Consistent) {i : Nat} {c : Card} (hc : b.cards[i]? = some c) :
    b.keys.idxOf c.key = i := by
  obtain ⟨hlt, hkey⟩ := List.getElem?_eq_some_iff.mp (keys_getElem? hc)
  rw [← hkey, h.keys_nodup.idxOf_getElem i hlt]

/-- Among the cards of the grid, a card stands where it stands among the cards. -/
theorem Consistent.position?_key (h : b.Consistent) {i : Nat} {c : Card}
    (hc : b.cards[i]? = some c) : b.grid.withoutDetail.position? c.key = some i := by
  have hmem := key_mem_keys (List.mem_of_getElem? hc)
  rw [Grid.withoutDetail_eq_ofKeys, h.keys_grid, Grid.position?_ofKeys hmem, h.idxOf_key hc]

/-- The table of the keys leads to the card that has the key. -/
theorem Consistent.lastPlace?_bind (h : b.Consistent) (key : CardKey) :
    ((key.lastPlace? b.keys).bind fun i => b.cards[i]?) = b.card? key := by
  cases hcard : b.card? key with
  | none =>
    rw [CardKey.lastPlace?_of_notMem (card?_eq_none_iff.mp hcard)]
    rfl
  | some c =>
    obtain ⟨hmem, rfl⟩ := mem_of_card? hcard
    obtain ⟨i, hi⟩ := List.mem_iff_getElem?.mp hmem
    rw [CardKey.lastPlace?_of_getElem? h.keys_nodup (keys_getElem? hi)]
    exact hi

/-! ## Places and clicks -/

section Toggle

variable {key : CardKey} {metrics : Metrics} {outcome : ToggleOutcome} {b' : Board}

theorem placement?_opens (c : Card) (placement : Placement) (slot ticket : Nat) :
    (c.opens placement slot ticket).placement? = some placement := by
  rw [Card.opens]
  cases c.history <;> rfl

/-- A click on a closed card that is no lamp places the panel for the place of the card, and no
other click places it. -/
theorem ToggleStep.placement? (step : b.ToggleStep key metrics outcome b') (h : b.Consistent)
    {i : Nat} {c : Card} (hc : b.cards[i]? = some c) (hkey : c.key = key) :
    outcome.placement? = if c.isLamp || c.isOpen then none else some ⟨metrics, i⟩ := by
  have hmem := List.mem_of_getElem? hc
  subst hkey
  cases step with
  | unknown hnot => exact absurd (key_mem_keys hmem) hnot
  | switched hcard hk hlamp =>
    obtain rfl := eq_of_key_eq h.keys_nodup hcard hmem hk
    rw [Card.isLamp_of_lamp_eq_some hlamp]
    rfl
  | closed hcard hk hlamp hopen =>
    obtain rfl := eq_of_key_eq h.keys_nodup hcard hmem hk
    rw [hlamp, hopen]
    rfl
  | opened hcard hk hlamp hopen =>
    obtain rfl := eq_of_key_eq h.keys_nodup hcard hmem hk
    rw [placement?_opens, hlamp, hopen, Grid.placementIn, h.idxOf_key hc]
    rfl

/-- A card that is there is always opened, closed or switched, even if the panel of another card is
taken down first. -/
theorem ToggleStep.eq_unknown_iff (step : b.ToggleStep key metrics outcome b') :
    outcome = .unknown ↔ key ∉ b.keys := by
  cases step with
  | unknown hnot => exact iff_of_true rfl hnot
  | switched hmem hkey _ | closed hmem hkey _ _ =>
    exact iff_of_false (by simp) (not_not_intro (hkey ▸ key_mem_keys hmem))
  | @opened card hmem hkey _ _ =>
    refine iff_of_false ?_ (not_not_intro (hkey ▸ key_mem_keys hmem))
    rw [Card.opens]
    cases card.history <;> simp

/-- A lost click changes nothing. -/
theorem ToggleStep.eq_of_unknown (step : b.ToggleStep key metrics outcome b')
    (hlost : outcome = .unknown) : b' = b := by
  have hnot := step.eq_unknown_iff.mp hlost
  cases step with
  | unknown _ => rfl
  | switched hmem hkey _ | closed hmem hkey _ _ | opened hmem hkey _ _ =>
    exact absurd (hkey ▸ key_mem_keys hmem) hnot

end Toggle

/-! ## The main statement -/

/-- No two cards of a successful survey have one device and one name, whatever repeats the lists
hold. On their board, whatever was clicked and whatever answers came, the table that was made of the
fresh board leads to the card with a key; each card stands in the grid where it stands among the
cards, but for the panel; and a click that opens it places the panel for that very place. A click is
lost exactly if no card has its key. -/
theorem place_of_key {rules : RuleTable} {gateway : Gateway} {d : Dashboard}
    (hsurvey : (Survey.run rules gateway).result = .ok d) (actions : List Action) :
    let start := ofDashboard d
    let b := start.run actions
    (d.cards.map fun c => (c.device, c.sensor.id.raw)).Nodup ∧
    (∀ key, ((key.lastPlace? start.keys).bind fun i => b.cards[i]?) = b.card? key) ∧
    (∀ i c, b.cards[i]? = some c →
      c.key.lastPlace? start.keys = some i ∧ b.card? c.key = some c ∧
      b.grid.withoutDetail.position? c.key = some i ∧
      ∀ metrics, (b.toggle c.key metrics).1.placement? =
        if c.isLamp || c.isOpen then none else some ⟨metrics, i⟩) ∧
    ∀ key metrics, (b.toggle key metrics).1 = .unknown ↔ ∀ c ∈ b.cards, c.key ≠ key := by
  intro start b
  have hfresh := Survey.fresh_of_run hsurvey
  have hstart : start.Consistent := consistent_ofDashboard hfresh
  have h : b.Consistent := hstart.run actions
  have hkeys : start.keys = b.keys := (hstart.keys_run actions).symm
  refine ⟨?_, fun key => ?_, fun i c hc => ?_, fun key metrics => ?_⟩
  · -- a key is made of the two, so the pairs are as distinct as the keys
    refine List.Nodup.of_map (fun p : String × String => CardKey.mk p.1 p.2) ?_
    rw [List.map_map]
    exact hfresh.keys_nodup
  · rw [hkeys]
    exact h.lastPlace?_bind key
  · refine ⟨?_, card?_of_mem h.keys_nodup (List.mem_of_getElem? hc), h.position?_key hc, ?_⟩
    · rw [hkeys]
      exact CardKey.lastPlace?_of_getElem? h.keys_nodup (keys_getElem? hc)
    · intro metrics
      exact (toggle_step h c.key metrics).placement? h hc rfl
  · rw [(toggle_step h key metrics).eq_unknown_iff, mem_keys]
    simp

/-- On the porch, whose lists repeat themselves, the thermometer is opened and then the hygrometer
while the panel stands in front of it: it is found as the third card all the same. A click on the
sensor without a rule is lost. -/
theorem place_of_key_porch :
    let start := ofDashboard Survey.porchDashboard
    let b := start.run [.toggle ⟨"porch", ".3303.0"⟩ ⟨300.0, 300.0⟩]
    (Survey.run .builtin Survey.porch).result = .ok Survey.porchDashboard ∧
      b.grid.position? ⟨"porch", ".3304.0"⟩ = some 3 ∧
      b.grid.withoutDetail.position? ⟨"porch", ".3304.0"⟩ = some 2 ∧
      (b.toggle ⟨"porch", ".3304.0"⟩ ⟨300.0, 300.0⟩).1.placement? = some ⟨⟨300.0, 300.0⟩, 2⟩ ∧
      (b.toggle ⟨"porch", ".5.1"⟩ ⟨300.0, 300.0⟩).1 = .unknown := by
  intro start b
  obtain ⟨c, hc, hkey, hclosed⟩ : ∃ c, b.cards[2]? = some c ∧ c.key = ⟨"porch", ".3304.0"⟩ ∧
      (c.isLamp || c.isOpen) = false :=
    ⟨_, rfl, rfl, rfl⟩
  obtain ⟨_, _, hplaces, hlost⟩ :=
    place_of_key Survey.run_porch [.toggle ⟨"porch", ".3303.0"⟩ ⟨300.0, 300.0⟩]
  obtain ⟨_, _, hposition, hplacement⟩ := hplaces 2 c hc
  rw [hkey] at hposition hplacement
  refine ⟨Survey.run_porch, by decide +kernel, hposition, ?_, ?_⟩
  · rw [hplacement, hclosed]
    rfl
  · exact (hlost _ _).mpr (by decide +kernel)

end Board

end SensorBoard
