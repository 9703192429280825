import SensorBoard.Lookup.Inquiry

/-!
# Results of inquiries

An inquiry that goes on with a result makes the lookups of both parts. Inquiring after every item of
a list succeeds if every single inquiry does, with the results in the order of the items, and
otherwise it fails as the first single inquiry that does.
-/

namespace SensorBoard.Inquiry

variable {ε α β : Type}

/-! ## Successes -/

theorem bind_of_ok {x : Inquiry ε α} {a : α} (h : x.result = .ok a) (f : α → Inquiry ε β) :
    x.bind f = ⟨x.lookups ++ (f a).lookups, (f a).result⟩ := by
  simp only [bind, h]

/-- A single lookup that is answered. -/
theorem ask_bind_of_ok {ε' : Type} {answer : Except ε' α} {a : α} (h : answer = .ok a)
    (lookup : Lookup) (g : ε' → ε) (f : α → β) :
    ((ask lookup (answer.mapError g)).bind fun a => pure (f a)) = ⟨[lookup], .ok (f a)⟩ := by
  rw [h]
  rfl

/-- Where every single inquiry succeeds, the lookups of all are made in turn. -/
theorem each_eq_of_ok {f : α → Inquiry ε β} {lookups : α → List Lookup} {found : α → β}
    {items : List α} (h : ∀ a ∈ items, f a = ⟨lookups a, .ok (found a)⟩) :
    each f items = ⟨items.flatMap lookups, .ok (items.map found)⟩ := by
  induction items with
  | nil => rfl
  | cons a rest ih =>
    have ha : f a = ⟨lookups a, .ok (found a)⟩ := h a (List.mem_cons_self ..)
    have hrest := ih fun b hb => h b (List.mem_cons_of_mem a hb)
    rw [each, ha, hrest]
    simp only [bind, pure, List.append_nil, List.flatMap_cons, List.map_cons]

/-! ## Faults -/

/-- The error of an inquiry that failed. -/
def fault? (x : Inquiry ε α) : Option ε :=
  match x.result with
  | .ok _ => none
  | .error e => some e

theorem fault?_eq_some_iff {x : Inquiry ε α} {e : ε} : x.fault? = some e ↔ x.result = .error e := by
  rw [fault?]
  cases x.result <;> simp

theorem fault?_eq_none_iff {x : Inquiry ε α} : x.fault? = none ↔ ∃ a, x.result = .ok a := by
  rw [fault?]
  cases x.result <;> simp

theorem bind_of_error {x : Inquiry ε α} {e : ε} (h : x.result = .error e) (f : α → Inquiry ε β) :
    x.bind f = ⟨x.lookups, .error e⟩ := by
  simp only [bind, h]

/-- A single lookup that is not answered. -/
theorem ask_bind_of_error {ε' : Type} {answer : Except ε' α} {e : ε'} (h : answer = .error e)
    (lookup : Lookup) (g : ε' → ε) (f : α → Inquiry ε β) :
    (ask lookup (answer.mapError g)).bind f = ⟨[lookup], .error (g e)⟩ := by
  rw [h]
  rfl

theorem fault?_bind_of_ok {x : Inquiry ε α} {a : α} (h : x.result = .ok a) (f : α → Inquiry ε β) :
    (x.bind f).fault? = (f a).fault? := by
  rw [bind_of_ok h, fault?, fault?]

/-- What is made of a result cannot fail any more. -/
@[simp] theorem fault?_bind_pure (x : Inquiry ε α) (g : α → β) :
    (x.bind fun a => pure (g a)).fault? = x.fault? := by
  rw [fault?, fault?, bind]
  cases x.result <;> rfl

/-- An inquiry after every item fails with the first single one that does. -/
theorem fault?_each (f : α → Inquiry ε β) (items : List α) :
    (each f items).fault? = items.findSome? fun a => (f a).fault? := by
  induction items with
  | nil => rfl
  | cons a rest ih =>
    rw [each, List.findSome?_cons]
    cases hresult : (f a).result with
    | error e =>
      rw [bind_of_error hresult, fault?_eq_some_iff.mpr hresult]
      rfl
    | ok b =>
      have hnone : (f a).fault? = none := fault?_eq_none_iff.mpr ⟨b, hresult⟩
      rw [fault?_bind_of_ok hresult, fault?_bind_pure, ih, hnone]

theorem mem_lookups_bind {x : Inquiry ε α} {f : α → Inquiry ε β} {lookup : Lookup}
    (h : lookup ∈ (x.bind f).lookups) : lookup ∈ x.lookups ∨ ∃ a, lookup ∈ (f a).lookups := by
  rw [bind] at h
  cases hresult : x.result with
  | error e =>
    rw [hresult] at h
    exact Or.inl h
  | ok a =>
    rw [hresult] at h
    exact (List.mem_append.mp h).imp_right fun hf => ⟨a, hf⟩

/-- Nothing is looked up but what a single inquiry does. -/
theorem mem_lookups_each {f : α → Inquiry ε β} {items : List α} {lookup : Lookup}
    (h : lookup ∈ (each f items).lookups) : ∃ a ∈ items, lookup ∈ (f a).lookups := by
  induction items with
  | nil => cases h
  | cons a rest ih =>
    rcases mem_lookups_bind h with h | ⟨b, h⟩
    · exact ⟨a, List.mem_cons_self .., h⟩
    · rcases mem_lookups_bind h with h | ⟨bs, h⟩
      · obtain ⟨c, hc, h⟩ := ih h
        exact ⟨c, List.mem_cons_of_mem a hc, h⟩
      · cases h

end SensorBoard.Inquiry
