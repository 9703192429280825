import Mathlib.Data.List.DropRight
import SensorBoard.Text.Blank

/-!
# The part between the blanks

What `trimmed` leaves is the one part of a text that has only blanks on both sides of it and no
blank at its own ends (`trimmed_eq_iff`).
-/

namespace SensorBoard.Text

/-- Are the characters blank, all of them? -/
def AllBlank (cs : List Char) : Prop := ∀ c ∈ cs, isBlank c = true

/-- The part of a text between the blanks at its ends. -/
structure Trims (s core : List Char) : Prop where
  between : ∃ front back, s = front ++ core ++ back ∧ AllBlank front ∧ AllBlank back
  head : ∀ c ∈ core.head?, isBlank c = false
  last : ∀ c ∈ core.getLast?, isBlank c = false

variable {s cs core back : List Char}

theorem head?_dropWhile (s : List Char) :
    ∀ c ∈ (s.dropWhile isBlank).head?, isBlank c = false := by
  intro c hc
  have h := List.head?_dropWhile_not isBlank s
  rwa [Option.mem_def.mp hc] at h

theorem dropWhile_of_head (h : ∀ c ∈ cs.head?, isBlank c = false) : cs.dropWhile isBlank = cs := by
  cases cs with
  | nil => rfl
  | cons c cs => exact List.dropWhile_cons_of_neg (Bool.eq_false_iff.mp (h c rfl))

theorem rdropWhile_append (hback : AllBlank back) (h : ∀ c ∈ cs.getLast?, isBlank c = false) :
    (cs ++ back).rdropWhile isBlank = cs := by
  rw [List.rdropWhile, List.reverse_append,
    List.dropWhile_append_of_pos fun c hc => hback c (List.mem_reverse.mp hc),
    dropWhile_of_head (by rwa [List.head?_reverse]), List.reverse_reverse]

theorem trims_trimmed (s : List Char) : Trims s (trimmed s) := by
  have hback : trimmed s ++ (s.dropWhile isBlank).rtakeWhile isBlank = s.dropWhile isBlank :=
    List.rdropWhile_append_rtakeWhile ..
  constructor
  case between =>
    refine ⟨s.takeWhile isBlank, (s.dropWhile isBlank).rtakeWhile isBlank, ?_, ?_, ?_⟩
    · rw [List.append_assoc, hback, List.takeWhile_append_dropWhile]
    · exact fun c hc => List.mem_takeWhile_imp hc
    · exact fun c hc => List.mem_rtakeWhile_imp hc
  case head =>
    -- what is left starts where the blanks in front have ended
    intro c hc
    apply head?_dropWhile s c
    rw [← hback, List.head?_append, Option.mem_def.mp hc]
    rfl
  case last =>
    intro c hc
    rw [trimmed, List.getLast?_reverse] at hc
    exact head?_dropWhile _ c hc

theorem Trims.trimmed_eq (h : Trims s core) : trimmed s = core := by
  obtain ⟨front, back, rfl, hfront, hback⟩ := h.between
  have hdrop : (front ++ core ++ back).dropWhile isBlank = (core ++ back).dropWhile isBlank := by
    rw [List.append_assoc, List.dropWhile_append_of_pos hfront]
  rw [trimmed, hdrop]
  -- an empty core leaves blanks only, and those in front take them all
  cases core with
  | nil => rw [List.nil_append, List.dropWhile_eq_nil_iff.mpr hback]; rfl
  | cons c core =>
    have hkeep : (c :: core ++ back).dropWhile isBlank = c :: core ++ back :=
      dropWhile_of_head h.head
    rw [hkeep]
    exact rdropWhile_append hback h.last

theorem trimmed_eq_iff : trimmed s = core ↔ Trims s core :=
  ⟨fun h => h ▸ trims_trimmed s, Trims.trimmed_eq⟩

end SensorBoard.Text
