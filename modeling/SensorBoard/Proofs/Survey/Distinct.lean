import Mathlib.Data.List.Nodup
import SensorBoard.Survey

/-!
# Names without repeats

A survey takes every name where it stands first. What is asked of the names in their order is told
as well by the list with the repeats (`findSome?_distinct`).
-/

namespace SensorBoard.Survey

variable {s : String} {seen texts : List String}

theorem distinctFrom_eq_eraseDups (seen texts : List String) :
    distinctFrom seen texts = (texts.filter fun t => !seen.contains t).eraseDups := by
  induction texts generalizing seen with
  | nil => rfl
  | cons t rest ih =>
    rw [distinctFrom]
    cases ht : seen.contains t with
    | true =>
      simp only [if_true, ih, List.filter_cons, ht, Bool.not_true, Bool.false_eq_true, if_false]
    | false =>
      simp only [Bool.false_eq_true, if_false, ih, List.filter_cons, ht, Bool.not_false, if_true,
        List.eraseDups_cons, List.filter_filter, List.contains_cons, Bool.not_or]

theorem distinct_eq_eraseDups (texts : List String) : distinct texts = texts.eraseDups := by
  simp [distinct, distinctFrom_eq_eraseDups]

theorem mem_distinctFrom : s ∈ distinctFrom seen texts ↔ s ∈ texts ∧ s ∉ seen := by
  simp [distinctFrom_eq_eraseDups]

theorem mem_distinct : s ∈ distinct texts ↔ s ∈ texts := by
  simp [distinct, mem_distinctFrom]

theorem nodup_distinctFrom (seen texts : List String) : (distinctFrom seen texts).Nodup := by
  induction texts generalizing seen with
  | nil => exact List.nodup_nil
  | cons t rest ih =>
    rw [distinctFrom]
    split
    · exact ih seen
    · refine List.nodup_cons.mpr ⟨fun hmem => ?_, ih (t :: seen)⟩
      exact (mem_distinctFrom.mp hmem).2 (List.mem_cons_self ..)

theorem nodup_distinct (texts : List String) : (distinct texts).Nodup := nodup_distinctFrom [] texts

theorem findSome?_distinctFrom {α : Type} {f : String → Option α}
    (hseen : ∀ s ∈ seen, f s = none) :
    (distinctFrom seen texts).findSome? f = texts.findSome? f := by
  induction texts generalizing seen with
  | nil => rfl
  | cons t rest ih =>
    rw [distinctFrom, List.findSome?_cons]
    split
    next h =>
      -- nothing was found at this text before, so nothing is found at it now
      have ht : f t = none := hseen t (by simpa using h)
      rw [ih hseen, ht]
    next h =>
      rw [List.findSome?_cons]
      cases ht : f t with
      | some a => rfl
      | none => exact ih (List.forall_mem_cons.mpr ⟨ht, hseen⟩)

/-- What is found first in a list is found first where repeats are left out. -/
theorem findSome?_distinct {α : Type} (f : String → Option α) (texts : List String) :
    (distinct texts).findSome? f = texts.findSome? f :=
  findSome?_distinctFrom (by simp)

end SensorBoard.Survey
