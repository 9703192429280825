/-!
# Keyed lists

Lists of named entries in ascending order of their names, one entry a name. Names are compared
character by character, which is also the order of their UTF-8 bytes. Writing to a name that is
present replaces its entry.
-/

namespace SensorBoard.Keyed

variable {α : Type}

/-- Writes an entry into an ascending list. -/
def insert (key : String) (value : α) : List (String × α) → List (String × α)
  | [] => [(key, value)]
  | (k, v) :: rest =>
    if key < k then (key, value) :: (k, v) :: rest
    else if key = k then (key, value) :: rest
    else (k, v) :: insert key value rest

def find? (key : String) : List (String × α) → Option α
  | [] => none
  | (k, v) :: rest => if key = k then some v else find? key rest

/-- The ascending list of some entries; of two with one name the later one stays. -/
def ofList (entries : List (String × α)) : List (String × α) :=
  entries.foldl (fun m e => insert e.1 e.2 m) []

theorem find?_insert_self (key : String) (value : α) (m : List (String × α)) :
    find? key (insert key value m) = some value := by
  induction m with
  | nil => simp [insert, find?]
  | cons e rest ih =>
    obtain ⟨k, v⟩ := e
    rw [insert]
    split
    · simp [find?]
    · split
      · simp [find?]
      · next hne => simpa [find?, hne] using ih

theorem find?_insert_of_ne {key other : String} (h : other ≠ key) (value : α)
    (m : List (String × α)) : find? other (insert key value m) = find? other m := by
  induction m with
  | nil => simp [insert, find?, h]
  | cons e rest ih =>
    obtain ⟨k, v⟩ := e
    rw [insert]
    split
    · simp [find?, h]
    · split
      · next heq => subst heq; simp [find?, h]
      · simp only [find?, ih]

end SensorBoard.Keyed
