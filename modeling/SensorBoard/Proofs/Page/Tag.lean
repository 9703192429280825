import Mathlib.Data.List.TakeWhile
import SensorBoard.Keyed
import SensorBoard.Proofs.Page.Entity
import SensorBoard.Text.Split

/-!
# Tags of a page

What a reader finds on a page: the tags in their order, each with its attributes and with the text
between it and the next tag, all entities decoded. Tags that are written with their texts escaped
are read back as they were (`read_print`), whatever the texts are.
-/

namespace SensorBoard.Page

/-- A tag with its attributes, and the text between it and the next tag. -/
structure Tag where
  name : String
  attributes : List (String × String)
  text : String
  deriving DecidableEq

namespace Tag

/-! ## Reading -/

/-- The attributes of a tag that was cut at its quotes: in front of every value stands the label of
the attribute, which is a space, its name and an equals sign. -/
def readAttributes : List (List Char) → List (String × String)
  | label :: value :: rest =>
    let name := ((label.dropWhile (· != ' ')).drop 1).dropLast
    (String.ofList name, String.ofList (Entity.decode value)) :: readAttributes rest
  | _ => []

/-- A tag without the mark that begins it, and what follows it. -/
def readOne (cs : List Char) : Tag where
  name := String.ofList ((cs.takeWhile (· != '>')).takeWhile (· != ' '))
  attributes := readAttributes (Text.splitChars '"' (cs.takeWhile (· != '>')))
  text := String.ofList (Entity.decode ((cs.dropWhile (· != '>')).drop 1))

/-- The tags of a page; what stands in front of the first one is no part of any. -/
def read (page : String) : List Tag := ((Text.splitChars '<' page.toList).drop 1).map readOne

/-- The value of the first attribute with a name. -/
def attribute? (name : String) (tags : List Tag) : Option String :=
  Keyed.find? name (tags.flatMap attributes)

/-- The text behind the first tag with a name. -/
def textBehind? (name : String) (tags : List Tag) : Option String :=
  (tags.find? fun t => t.name == name).map text

/-! ## Writing -/

/-- The characters of an attribute. -/
def attributeChars (a : String × String) : List Char :=
  ' ' :: a.1.toList ++ '=' :: '"' :: (Entity.escape a.2).toList ++ ['"']

/-- What stands between the marks of the tag. -/
def inside (t : Tag) : List Char := t.name.toList ++ t.attributes.flatMap attributeChars

/-- The tag without the mark that begins it, and its text. -/
def body (t : Tag) : List Char := t.inside ++ '>' :: (Entity.escape t.text).toList

/-- The characters of some tags with their texts. -/
def print (tags : List Tag) : List Char := tags.flatMap fun t => '<' :: t.body

/-- Is it a name? No mark and no space is part of one. -/
def isName (s : String) : Bool := s.toList.all fun c => !Entity.isMark c && c != ' '

/-- The tag and its attributes have names. -/
def isNamed (t : Tag) : Bool := isName t.name && t.attributes.all fun a => isName a.1

/-! ## Reading what was written -/

theorem notMem_of_isName {s : String} (h : isName s = true) {c : Char}
    (hc : Entity.isMark c = true ∨ c = ' ') : c ∉ s.toList := by
  intro hmem
  have hall := List.all_eq_true.mp h c hmem
  rcases hc with hc | rfl
  · simp [hc] at hall
  · simp at hall

theorem notMem_escape {s : String} {c : Char} (hc : Entity.isMark c = true) :
    c ∉ (Entity.escape s).toList := by
  intro hmem
  rw [Entity.isMark_of_mem_escape hmem] at hc
  cases hc

/-- The first part of a list that was cut in two is what stands in front of the cut. -/
theorem takeWhile_append_cons {c : Char} {cs : List Char} (h : c ∉ cs) (rest : List Char) :
    (cs ++ c :: rest).takeWhile (· != c) = cs := by
  rw [List.takeWhile_append_of_pos (fun x hx => by simpa using ne_of_mem_of_not_mem hx h)]
  simp

theorem dropWhile_append_cons {c : Char} {cs : List Char} (h : c ∉ cs) (rest : List Char) :
    (cs ++ c :: rest).dropWhile (· != c) = c :: rest := by
  rw [List.dropWhile_append_of_pos (fun x hx => by simpa using ne_of_mem_of_not_mem hx h)]
  simp

theorem notMem_attributeChars {a : String × String} (h : isName a.1 = true) {c : Char}
    (hc : c = '<' ∨ c = '>') : c ∉ attributeChars a := by
  have hmark : Entity.isMark c = true := by rcases hc with rfl | rfl <;> rfl
  have hname := notMem_of_isName h (Or.inl hmark)
  have hvalue := notMem_escape (s := a.2) hmark
  rcases hc with rfl | rfl <;> simp [attributeChars, hname, hvalue, -Entity.toList_escape]

theorem notMem_inside {t : Tag} (h : t.isNamed = true) {c : Char} (hc : c = '<' ∨ c = '>') :
    c ∉ t.inside := by
  obtain ⟨hname, hattributes⟩ := Bool.and_eq_true_iff.mp h
  have hmark : Entity.isMark c = true := by rcases hc with rfl | rfl <;> rfl
  rw [inside, List.mem_append, List.mem_flatMap]
  -- the character would be one of the name or one of an attribute
  rintro (hmem | ⟨a, ha, hmem⟩)
  · exact notMem_of_isName hname (Or.inl hmark) hmem
  · exact notMem_attributeChars (List.all_eq_true.mp hattributes a ha) hc hmem

theorem readAttributes_splitChars {attributes : List (String × String)} {front : List Char}
    (hquote : '"' ∉ front) (hspace : ' ' ∉ front) (h : ∀ a ∈ attributes, isName a.1 = true) :
    readAttributes (Text.splitChars '"' (front ++ attributes.flatMap attributeChars)) =
      attributes := by
  induction attributes generalizing front with
  | nil =>
    rw [List.flatMap_nil, List.append_nil, Text.splitChars_of_notMem hquote]
    rfl
  | cons a rest ih =>
    obtain ⟨hname, hrest⟩ := List.forall_mem_cons.mp h
    -- the label is what stands in front of the first quote, and the value in front of the second
    have hparts : front ++ (a :: rest).flatMap attributeChars =
        (front ++ ' ' :: (a.1.toList ++ ['='])) ++ '"' :: ((Entity.escape a.2).toList ++
          '"' :: ([] ++ rest.flatMap attributeChars)) := by
      simp [attributeChars]
    have hquotes : '"' ∉ a.1.toList := notMem_of_isName hname (Or.inl rfl)
    have hlabel : '"' ∉ front ++ ' ' :: (a.1.toList ++ ['=']) := by
      simp [hquote, hquotes]
    rw [hparts, Text.splitChars_append hlabel, Text.splitChars_append (notMem_escape rfl),
      readAttributes, ih List.not_mem_nil List.not_mem_nil hrest, dropWhile_append_cons hspace,
      Entity.decode_escape, String.ofList_toList, List.drop_succ_cons, List.drop_zero,
      List.dropLast_concat, String.ofList_toList]

theorem takeWhile_inside {t : Tag} (h : t.isNamed = true) :
    t.inside.takeWhile (· != ' ') = t.name.toList := by
  obtain ⟨hname, _⟩ := Bool.and_eq_true_iff.mp h
  have hspace : ' ' ∉ t.name.toList := notMem_of_isName hname (Or.inr rfl)
  rw [inside]
  cases t.attributes with
  | nil =>
    rw [List.flatMap_nil, List.append_nil, List.takeWhile_eq_self_iff]
    exact fun x hx => by simpa using ne_of_mem_of_not_mem hx hspace
  | cons a rest => exact takeWhile_append_cons hspace _

theorem readOne_body {t : Tag} (h : t.isNamed = true) : readOne t.body = t := by
  obtain ⟨hname, hattributes⟩ := Bool.and_eq_true_iff.mp h
  have hend : '>' ∉ t.inside := notMem_inside h (Or.inr rfl)
  have hread : readAttributes (Text.splitChars '"' t.inside) = t.attributes :=
    readAttributes_splitChars (notMem_of_isName hname (Or.inl rfl))
      (notMem_of_isName hname (Or.inr rfl)) (List.all_eq_true.mp hattributes)
  rw [readOne, body, takeWhile_append_cons hend, dropWhile_append_cons hend, takeWhile_inside h,
    hread, List.drop_succ_cons, List.drop_zero, Entity.decode_escape, String.ofList_toList,
    String.ofList_toList]

/-- Written tags are read back. -/
theorem read_print {tags : List Tag} (h : tags.all isNamed = true) :
    read (String.ofList (print tags)) = tags := by
  have hnamed := List.all_eq_true.mp h
  -- no mark begins a tag inside of another one or of its text
  have hbodies : ∀ b ∈ tags.map body, '<' ∉ b := by
    refine List.forall_mem_map.mpr fun t ht => ?_
    have hinside : '<' ∉ t.inside := notMem_inside (hnamed t ht) (Or.inl rfl)
    have htext : '<' ∉ (Entity.escape t.text).toList := notMem_escape rfl
    simp [body, hinside, htext, -Entity.toList_escape]
  have hprint : print tags = [] ++ (tags.map body).flatMap ('<' :: ·) := by
    rw [print, List.flatMap_map, List.nil_append]
  rw [read, String.toList_ofList, hprint, Text.splitChars_flatMap List.not_mem_nil hbodies,
    List.drop_succ_cons, List.drop_zero, List.map_map]
  exact (List.map_congr_left fun t ht => readOne_body (hnamed t ht)).trans (List.map_id tags)

end Tag

end SensorBoard.Page
