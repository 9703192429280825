import SensorBoard.Json.Reader
import SensorBoard.Proofs.Except
import SensorBoard.Proofs.Keyed

/-!
# Members in order

Whatever text is read, the members of every object in the value stand in the order of their names,
each name once (`ordered_of_parse`).
-/

namespace SensorBoard.Json

/-- The members of every object inside the value ascend by their names. -/
inductive Ordered : Json → Prop where
  | null : Ordered .null
  | bool (b : Bool) : Ordered (.bool b)
  | number (n : JsonNumber) : Ordered (.number n)
  | text (s : String) : Ordered (.text s)
  | list {items : List Json} (h : ∀ j ∈ items, Ordered j) : Ordered (.list items)
  | object {members : List (String × Json)} (hnames : members.Pairwise fun x y => x.1 < y.1)
      (h : ∀ m ∈ members, Ordered m.2) : Ordered (.object members)

theorem Ordered.insert {members : List (String × Json)} {j : Json}
    (h : Ordered (.object members)) (hj : Ordered j) (name : String) :
    Ordered (.object (Keyed.insert name j members)) := by
  cases h with
  | object hnames h =>
    refine .object (Keyed.pairwise_insert hnames) fun m hm => ?_
    rcases Keyed.mem_insert hm with rfl | hm
    · exact hj
    · exact h m hm

/-- What is read with some fuel is in order, if what was read before is. -/
structure KeepsOrder (fuel : Nat) : Prop where
  value : ∀ {depth cs j rest}, valueLoop fuel depth cs = .ok (j, rest) → Ordered j
  items : ∀ {depth read cs items rest}, itemsLoop fuel depth read cs = .ok (items, rest) →
    (∀ j ∈ read, Ordered j) → ∀ j ∈ items, Ordered j
  members : ∀ {depth read cs members rest},
    membersLoop fuel depth read cs = .ok (members, rest) → Ordered (.object (read.getD [])) →
      Ordered (.object members)

theorem keepsOrder_zero : KeepsOrder 0 where
  value h := by rw [valueLoop] at h; cases h
  items h := by rw [itemsLoop] at h; cases h
  members h := by rw [membersLoop] at h; cases h

section Step

variable {fuel depth : Nat} {cs rest : List Char}

theorem KeepsOrder.valueLoop_succ (ih : KeepsOrder fuel) {j : Json}
    (h : valueLoop (fuel + 1) depth cs = .ok (j, rest)) : Ordered j := by
  rw [valueLoop] at h
  split at h
  case h_5 =>
    -- a list
    split at h
    · cases h
    · obtain ⟨⟨items, rest'⟩, hitems, hj⟩ := bind_eq_ok_iff.mp h
      cases hj
      exact .list (ih.items hitems (List.forall_mem_nil _))
  case h_6 =>
    -- an object, which starts without members
    split at h
    · cases h
    · obtain ⟨⟨members, rest'⟩, hmembers, hj⟩ := bind_eq_ok_iff.mp h
      cases hj
      exact ih.members hmembers (.object .nil (List.forall_mem_nil _))
  -- all others have no members inside
  all_goals
    obtain ⟨⟨a, rest'⟩, _, hj⟩ := bind_eq_ok_iff.mp h
    cases hj
    constructor

theorem KeepsOrder.itemsLoop_succ (ih : KeepsOrder fuel) {read items : List Json}
    (h : itemsLoop (fuel + 1) depth read cs = .ok (items, rest)) (hread : ∀ j ∈ read, Ordered j) :
    ∀ j ∈ items, Ordered j := by
  rw [itemsLoop] at h
  obtain ⟨next, _, h⟩ := bind_eq_ok_iff.mp h
  cases next with
  | none =>
    obtain ⟨⟨_, rest'⟩, _, hitems⟩ := bind_eq_ok_iff.mp h
    cases hitems
    exact fun j hj => hread j (List.mem_reverse.mp hj)
  | some rest' =>
    obtain ⟨⟨j, rest''⟩, hj, hitems⟩ := bind_eq_ok_iff.mp h
    exact ih.items hitems (List.forall_mem_cons.mpr ⟨ih.value hj, hread⟩)

theorem KeepsOrder.membersLoop_succ (ih : KeepsOrder fuel)
    {read : Option (List (String × Json))} {members : List (String × Json)}
    (h : membersLoop (fuel + 1) depth read cs = .ok (members, rest))
    (hread : Ordered (.object (read.getD []))) : Ordered (.object members) := by
  rw [membersLoop] at h
  obtain ⟨⟨name, rest'⟩, _, h⟩ := bind_eq_ok_iff.mp h
  cases name with
  | none =>
    cases h
    exact hread
  | some name =>
    -- the member that was read is written among those before it
    obtain ⟨⟨_, _⟩, _, h⟩ := bind_eq_ok_iff.mp h
    obtain ⟨⟨j, _⟩, hj, hmembers⟩ := bind_eq_ok_iff.mp h
    exact ih.members hmembers (hread.insert (ih.value hj) name)

end Step

theorem keepsOrder (fuel : Nat) : KeepsOrder fuel := by
  induction fuel with
  | zero => exact keepsOrder_zero
  | succ fuel ih => exact ⟨ih.valueLoop_succ, ih.itemsLoop_succ, ih.membersLoop_succ⟩

/-- A value that is read is in order. -/
theorem ordered_of_readValue {outer : Nat} {cs rest : List Char} {j : Json}
    (h : readValue outer cs = .ok (j, rest)) : Ordered j :=
  (keepsOrder _).value h

end SensorBoard.Json
