import Mathlib.Data.List.Nodup
import Mathlib.Data.String.Basic
import SensorBoard.Keyed

/-!
# Entries of keyed lists

What is found in two lists is found in the first of them if it is there. Writing keeps a keyed list
in ascending order. The list of some entries whose names are all different holds these entries and
no others.
-/

namespace SensorBoard.Keyed

variable {α : Type} {key : String} {value : α} {m : List (String × α)}

theorem find?_append (key : String) (l m : List (String × α)) :
    find? key (l ++ m) = (find? key l).or (find? key m) := by
  induction l with
  | nil => rfl
  | cons e rest ih =>
    obtain ⟨k, v⟩ := e
    rw [List.cons_append, find?, find?]
    split
    · rfl
    · exact ih

theorem mem_of_find? (h : find? key m = some value) : (key, value) ∈ m := by
  induction m with
  | nil => cases h
  | cons e rest ih =>
    obtain ⟨k, v⟩ := e
    rw [find?] at h
    split at h
    next heq =>
      obtain rfl := Option.some.inj h
      exact heq ▸ List.mem_cons_self ..
    next => exact List.mem_cons_of_mem _ (ih h)

/-- Something is found under the names that are there. -/
theorem isSome_find?_iff : (find? key m).isSome = true ↔ key ∈ m.map Prod.fst := by
  induction m with
  | nil => simp [find?]
  | cons e rest ih =>
    obtain ⟨k, v⟩ := e
    rw [find?, List.map_cons, List.mem_cons, ← ih]
    split
    next heq => simp [heq]
    next hne => simp [hne]

/-- In an ascending list every entry is found. -/
theorem find?_of_mem (hm : m.Pairwise fun x y => x.1 < y.1) (h : (key, value) ∈ m) :
    find? key m = some value := by
  induction m with
  | nil => cases h
  | cons e rest ih =>
    obtain ⟨k, v⟩ := e
    obtain ⟨hk, hrest⟩ := List.pairwise_cons.mp hm
    rw [find?]
    rcases List.mem_cons.mp h with heq | h
    · obtain ⟨rfl, rfl⟩ := Prod.mk.inj heq
      rw [if_pos rfl]
    · rw [if_neg (ne_of_gt (hk _ h)), ih hrest h]

theorem mem_insert {e : String × α} (h : e ∈ insert key value m) : e = (key, value) ∨ e ∈ m := by
  induction m with
  | nil => simpa [insert] using h
  | cons first rest ih =>
    obtain ⟨k, v⟩ := first
    rw [insert] at h
    split at h
    · exact List.mem_cons.mp h
    · split at h
      · exact (List.mem_cons.mp h).imp_right (List.mem_cons_of_mem _)
      · rcases List.mem_cons.mp h with rfl | h
        · exact Or.inr (List.mem_cons_self ..)
        · exact (ih h).imp_right (List.mem_cons_of_mem _)

theorem mem_keys_insert {other : String} :
    other ∈ (insert key value m).map Prod.fst ↔ other = key ∨ other ∈ m.map Prod.fst := by
  rw [← isSome_find?_iff, ← isSome_find?_iff]
  by_cases h : other = key
  · subst h
    simp [find?_insert_self]
  · simp [find?_insert_of_ne h, h]

/-- A new name is an entry more. -/
theorem perm_insert (h : ∀ e ∈ m, e.1 ≠ key) : (insert key value m).Perm ((key, value) :: m) := by
  induction m with
  | nil => exact List.Perm.refl _
  | cons first rest ih =>
    obtain ⟨k, v⟩ := first
    obtain ⟨hk, hrest⟩ := List.forall_mem_cons.mp h
    rw [insert]
    split
    · exact List.Perm.refl _
    · rw [if_neg hk.symm]
      exact ((ih hrest).cons (k, v)).trans (List.Perm.swap ..)

theorem pairwise_insert (h : m.Pairwise fun x y => x.1 < y.1) :
    (insert key value m).Pairwise fun x y => x.1 < y.1 := by
  induction m with
  | nil => exact List.pairwise_singleton _ _
  | cons first rest ih =>
    obtain ⟨k, v⟩ := first
    obtain ⟨hk, hrest⟩ := List.pairwise_cons.mp h
    rw [insert]
    split
    next hlt =>
      refine List.pairwise_cons.mpr ⟨fun e he => ?_, h⟩
      rcases List.mem_cons.mp he with rfl | he
      · exact hlt
      · exact hlt.trans (hk e he)
    next hlt =>
      split
      next heq =>
        subst heq
        exact List.pairwise_cons.mpr ⟨hk, hrest⟩
      next hne =>
        -- the name comes after the first one, wherever it goes in the rest
        have hgt : k < key := (lt_trichotomy key k).resolve_left hlt |>.resolve_left hne
        refine List.pairwise_cons.mpr ⟨fun e he => ?_, ih hrest⟩
        rcases mem_insert he with rfl | he
        · exact hgt
        · exact hk e he

theorem pairwise_ofList (entries : List (String × α)) :
    (ofList entries).Pairwise fun x y => x.1 < y.1 := by
  have hfold (m : List (String × α)) (hm : m.Pairwise fun x y => x.1 < y.1) :
      (entries.foldl (fun m e => insert e.1 e.2 m) m).Pairwise fun x y => x.1 < y.1 := by
    induction entries generalizing m with
    | nil => exact hm
    | cons e rest ih => exact ih _ (pairwise_insert hm)
  exact hfold [] List.Pairwise.nil

private theorem perm_foldl_insert (entries m : List (String × α))
    (h : ((m ++ entries).map Prod.fst).Nodup) :
    (entries.foldl (fun m e => insert e.1 e.2 m) m).Perm (m ++ entries) := by
  induction entries generalizing m with
  | nil => rw [List.append_nil, List.foldl_nil]
  | cons e rest ih =>
    -- what is still to be written has no name in common with what is written already
    have hmiddle : (m ++ e :: rest).Perm (e :: m ++ rest) := List.perm_middle
    have hnodup : ((e :: m ++ rest).map Prod.fst).Nodup := (hmiddle.map Prod.fst).nodup_iff.mp h
    have hnew : ∀ x ∈ m, x.1 ≠ e.1 := by
      intro x hx heq
      rw [List.cons_append, List.map_cons, List.nodup_cons, ← heq] at hnodup
      exact hnodup.1 (List.mem_map_of_mem (List.mem_append_left rest hx))
    have hinsert : (insert e.1 e.2 m ++ rest).Perm (e :: m ++ rest) :=
      (perm_insert hnew).append_right rest
    have hrest := ih _ ((hinsert.map Prod.fst).nodup_iff.mpr hnodup)
    exact hrest.trans (hinsert.trans hmiddle.symm)

theorem perm_ofList {entries : List (String × α)} (h : (entries.map Prod.fst).Nodup) :
    (ofList entries).Perm entries :=
  perm_foldl_insert entries [] h

/-- Two ascending lists of the same entries are the same. -/
theorem eq_of_perm {l : List (String × α)} (hperm : l.Perm m)
    (hl : l.Pairwise fun x y => x.1 < y.1) (hm : m.Pairwise fun x y => x.1 < y.1) : l = m :=
  hperm.eq_of_pairwise (fun _ _ _ _ hlt hgt => absurd hgt hlt.asymm) hl hm

end SensorBoard.Keyed
