/-!
# Split texts

A text cut at every occurrence of a separator. Joining the parts gives the text back.
-/

namespace SensorBoard.Text

/-- The parts of a text between separators; a text without a separator is a single part. -/
def splitChars (separator : Char) : List Char → List (List Char)
  | [] => [[]]
  | c :: cs =>
    if c = separator then [] :: splitChars separator cs
    else
      match splitChars separator cs with
      | part :: parts => (c :: part) :: parts
      | [] => [[c]]

/-- The parts of a text between separators. -/
def split (separator : Char) (s : String) : List String :=
  (splitChars separator s.toList).map String.ofList

/-- A line without the carriage return that belongs to its end. -/
def withoutReturn (line : List Char) : List Char :=
  if line.getLast? = some '\r' then line.dropLast else line

/-- The lines of a text, of which each ends with a line feed, after a carriage return or not. -/
def lines (s : String) : List String :=
  (splitChars '\n' s.toList).dropLast.map fun line => String.ofList (withoutReturn line)

/-- A separator-free part in front of a separator is split off. -/
theorem splitChars_append {separator : Char} {part : List Char} (h : separator ∉ part)
    (rest : List Char) :
    splitChars separator (part ++ separator :: rest) = part :: splitChars separator rest := by
  induction part with
  | nil => simp [splitChars]
  | cons c cs ih =>
    simp only [List.mem_cons, not_or] at h
    rw [List.cons_append, splitChars, if_neg (Ne.symm h.1), ih h.2]

/-- A separator-free text is a single part. -/
theorem splitChars_of_notMem {separator : Char} {part : List Char} (h : separator ∉ part) :
    splitChars separator part = [part] := by
  induction part with
  | nil => rfl
  | cons c cs ih =>
    simp only [List.mem_cons, not_or] at h
    rw [splitChars, if_neg (Ne.symm h.1), ih h.2]

/-- A text is cut in front of every part that begins with the separator. -/
theorem splitChars_flatMap {separator : Char} {front : List Char} {parts : List (List Char)}
    (hfront : separator ∉ front) (h : ∀ part ∈ parts, separator ∉ part) :
    splitChars separator (front ++ parts.flatMap (separator :: ·)) = front :: parts := by
  induction parts generalizing front with
  | nil => rw [List.flatMap_nil, List.append_nil, splitChars_of_notMem hfront]
  | cons part rest ih =>
    obtain ⟨hpart, hrest⟩ := List.forall_mem_cons.mp h
    rw [List.flatMap_cons, List.cons_append, splitChars_append hfront, ih hpart hrest]

theorem splitChars_intercalate {separator : Char} {parts : List (List Char)} (hne : parts ≠ [])
    (h : ∀ part ∈ parts, separator ∉ part) :
    splitChars separator ([separator].intercalate parts) = parts := by
  induction parts with
  | nil => exact absurd rfl hne
  | cons part rest ih =>
    obtain ⟨hpart, hrest⟩ := List.forall_mem_cons.mp h
    cases rest with
    | nil => rw [List.intercalate_singleton, splitChars_of_notMem hpart]
    | cons next rest =>
      rw [List.intercalate_cons_cons, List.append_assoc, List.singleton_append,
        splitChars_append hpart, ih (List.cons_ne_nil _ _) hrest]

/-- Texts without the separator are what joining them with it is cut into. -/
theorem split_intercalate {separator : Char} {texts : List String} (hne : texts ≠ [])
    (h : ∀ text ∈ texts, separator ∉ text.toList) :
    split separator ((String.singleton separator).intercalate texts) = texts := by
  have hparts : ∀ part ∈ texts.map String.toList, separator ∉ part := List.forall_mem_map.mpr h
  rw [split, String.toList_intercalate, String.toList_singleton,
    splitChars_intercalate (by simpa using hne) hparts, List.map_map]
  simp

end SensorBoard.Text
