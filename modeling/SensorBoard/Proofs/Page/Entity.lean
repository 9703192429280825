import Mathlib.Data.List.Basic
import SensorBoard.Page.Entity

/-!
# Escaped texts

The replacements go over the whole text one after the other, each over what the ones before it have
made of the text. In their order that is the same as putting its entity in the place of every
character at once (`escapeChars_eq_flatMap`). So an escaped text has no character that begins or
ends a tag or the value of an attribute (`isMark_of_mem_escape`), an ampersand stands in it only at
the front of an entity (`exists_entity_of_ampersand`), a text that needs no entity is kept as it is
(`escape_eq_self`), and decoding gives every text back (`decode_escape`). The replacements are a
single pass that loses nothing (`escape_in_one_pass`).
-/

namespace SensorBoard.Page.Entity

/-- The characters that may not stand for themselves, in the order in which they are replaced. -/
def specials : List Char := ['&', '<', '>', '"']

/-- A character that begins or ends a tag or the value of an attribute. -/
def isMark (c : Char) : Bool := ['<', '>', '"'].contains c

theorem mem_specials_of_isMark {c : Char} (h : isMark c = true) : c ∈ specials :=
  List.mem_cons_of_mem _ (List.contains_iff_mem.mp h)

/-! ## One character -/

theorem entity?_of_notMem {c : Char} (h : c ∉ specials) : entity? c = none := by
  unfold entity?
  split
  case h_5 => rfl
  -- the characters before that are the special ones
  all_goals exact absurd (by decide) h

theorem escapeChar_of_notMem {c : Char} (h : c ∉ specials) : escapeChar c = [c] := by
  rw [escapeChar, entity?_of_notMem h]

theorem isMark_of_mem_escapeChar {c x : Char} (h : x ∈ escapeChar c) : isMark x = false := by
  by_cases hc : c ∈ specials
  · have hentities : specials.all (fun c => (escapeChar c).all fun x => !isMark x) = true := by
      decide
    simpa using List.all_eq_true.mp (List.all_eq_true.mp hentities c hc) x h
  · -- a character that is kept is no special one, and every mark is
    rw [escapeChar_of_notMem hc, List.mem_singleton] at h
    rw [h, ← Bool.not_eq_true]
    exact fun hmark => hc (mem_specials_of_isMark hmark)

/-! ## One replacement after the other -/

theorem replaceAll_singleton_of_ne {c x : Char} (h : x ≠ c) (new : List Char) :
    replaceAll c new [x] = [x] := by
  rw [replaceAll, List.flatMap_singleton, if_neg h]

/-- Replacements of a text that is put together from parts are replacements in each part. -/
theorem foldl_replaceAll_flatMap (order cs : List Char) (part : Char → List Char) :
    order.foldl (fun cs c => replaceAll c (escapeChar c) cs) (cs.flatMap part) =
      cs.flatMap fun x => order.foldl (fun cs c => replaceAll c (escapeChar c) cs) (part x) := by
  induction order generalizing part with
  | nil => rfl
  | cons c rest ih =>
    -- the first one goes into the parts, and the others go over what it has made of them
    simp only [List.foldl_cons]
    rw [replaceAll, List.flatMap_assoc]
    exact ih fun x => replaceAll c (escapeChar c) (part x)

theorem foldl_replaceAll_singleton {order : List Char} {x : Char} (h : x ∉ order) :
    order.foldl (fun cs c => replaceAll c (escapeChar c) cs) [x] = [x] := by
  induction order with
  | nil => rfl
  | cons c rest ih =>
    obtain ⟨hne, hrest⟩ := List.ne_and_not_mem_of_not_mem_cons h
    rw [List.foldl_cons, replaceAll_singleton_of_ne hne, ih hrest]

theorem escapeChars_singleton (c : Char) : escapeChars [c] = escapeChar c := by
  by_cases hc : c ∈ specials
  · -- no entity that was put in has a character that is still to be replaced
    have hentities : (specials.map fun c => escapeChars [c]) = specials.map escapeChar := by decide
    exact List.map_inj_left.mp hentities c hc
  · rw [escapeChar_of_notMem hc]
    exact foldl_replaceAll_singleton hc

/-- The replacements one after the other put its entity in the place of every character. -/
theorem escapeChars_eq_flatMap (cs : List Char) : escapeChars cs = cs.flatMap escapeChar := by
  -- every character is a part of its own
  have hparts := foldl_replaceAll_flatMap specials cs fun c => [c]
  rw [List.flatMap_singleton'] at hparts
  exact hparts.trans (List.flatMap_congr fun c _ => escapeChars_singleton c)

/-! ## Whole texts -/

@[simp] theorem toList_escape (s : String) : (escape s).toList = s.toList.flatMap escapeChar := by
  rw [escape, String.toList_ofList, escapeChars_eq_flatMap]

/-- No text brings a mark with it. -/
theorem isMark_of_mem_escape {s : String} {x : Char} (h : x ∈ (escape s).toList) :
    isMark x = false := by
  rw [toList_escape] at h
  obtain ⟨c, _, hx⟩ := List.mem_flatMap.mp h
  exact isMark_of_mem_escapeChar hx

theorem escape_eq_self {s : String} (h : ∀ c ∈ s.toList, c ∉ specials) : escape s = s := by
  rw [String.ext_iff, toList_escape,
    List.flatMap_congr fun c hc => escapeChar_of_notMem (h c hc), List.flatMap_singleton']

/-- A text without special characters is kept, as is shown by its characters. -/
theorem escape_ofList {cs : List Char} (h : cs.any specials.contains = false) :
    escape (String.ofList cs) = String.ofList cs := by
  apply escape_eq_self
  rw [String.toList_ofList]
  intro c hc hspecial
  exact List.any_eq_false.mp h c hc (List.contains_iff_mem.mpr hspecial)

/-! ## Decoding -/

theorem decode_cons {c : Char} (h : c ≠ '&') (cs : List Char) :
    decode (c :: cs) = c :: decode cs := by
  rw [decode]
  -- every entity begins with an ampersand
  all_goals exact fun _ heq _ => h heq

theorem decode_escapeChar_append (c : Char) (cs : List Char) :
    decode (escapeChar c ++ cs) = c :: decode cs := by
  by_cases hc : c ∈ specials
  · simp only [specials, List.mem_cons, List.not_mem_nil, or_false] at hc
    rcases hc with rfl | rfl | rfl | rfl <;> rfl
  · have hne : c ≠ '&' := fun heq => hc (heq ▸ List.mem_cons_self ..)
    rw [escapeChar_of_notMem hc]
    exact decode_cons hne cs

theorem decode_flatMap_escapeChar (cs : List Char) : decode (cs.flatMap escapeChar) = cs := by
  induction cs with
  | nil => rfl
  | cons c rest ih => rw [List.flatMap_cons, decode_escapeChar_append, ih]

@[simp] theorem decode_escape (s : String) : decode (escape s).toList = s.toList := by
  rw [toList_escape, decode_flatMap_escapeChar]

theorem escape_injective : Function.Injective escape := by
  intro s t h
  apply String.toList_inj.mp
  rw [← decode_escape s, ← decode_escape t, h]

/-! ## Ampersands -/

/-- What is put in the place of the special characters, in their order. -/
def entities : List String := ["&amp;", "&lt;", "&gt;", "&quot;"]

theorem map_escapeChar_specials : specials.map escapeChar = entities.map String.toList := by decide

theorem escapeChar_mem_entities {c : Char} (h : c ∈ specials) :
    ∃ entity ∈ entities, entity.toList = escapeChar c := by
  have hmem : escapeChar c ∈ specials.map escapeChar := List.mem_map_of_mem h
  rw [map_escapeChar_specials] at hmem
  exact List.mem_map.mp hmem

theorem ampersand_notMem_tail (c : Char) : '&' ∉ (escapeChar c).tail := by
  by_cases hc : c ∈ specials
  · have hentities : specials.all (fun c => !(escapeChar c).tail.contains '&') = true := by decide
    simpa using List.all_eq_true.mp hentities c hc
  · rw [escapeChar_of_notMem hc]
    exact List.not_mem_nil

/-- An ampersand in what stands for a character is the first of an entity. -/
theorem escapeChar_of_ampersand {c : Char} {front tail : List Char}
    (h : escapeChar c = front ++ '&' :: tail) : front = [] ∧ c ∈ specials := by
  constructor
  · cases front with
    | nil => rfl
    | cons x xs =>
      have htail : '&' ∈ (escapeChar c).tail := by simp [h]
      exact absurd htail (ampersand_notMem_tail c)
  · by_contra hc
    -- a character that is kept is no ampersand
    have hmem : '&' ∈ escapeChar c := by simp [h]
    rw [escapeChar_of_notMem hc, List.mem_singleton] at hmem
    exact hc (hmem ▸ List.mem_cons_self ..)

/-- Every ampersand of an escaped text is the first of an entity. -/
theorem exists_entity_of_ampersand {cs front back : List Char}
    (h : cs.flatMap escapeChar = front ++ '&' :: back) :
    ∃ entity ∈ entities, entity.toList <+: '&' :: back := by
  induction cs generalizing front with
  | nil => simp at h
  | cons c rest ih =>
    rw [List.flatMap_cons] at h
    rcases List.append_eq_append_iff.mp h with ⟨middle, _, hrest⟩ | ⟨middle, hc, hback⟩
    · -- the ampersand comes from a character behind the first one
      exact ih hrest
    · cases middle with
      | nil =>
        rw [List.nil_append] at hback
        exact ih (hback.symm.trans (List.nil_append _).symm)
      | cons x tail =>
        obtain ⟨rfl, _⟩ := List.cons.inj hback
        obtain ⟨rfl, hspecial⟩ := escapeChar_of_ampersand hc
        obtain ⟨entity, hentity, heq⟩ := escapeChar_mem_entities hspecial
        refine ⟨entity, hentity, ?_⟩
        rw [heq, hc, hback]
        exact List.prefix_append ..

/-! ## The main statement -/

theorem escapeChar_eq (c : Char) : escapeChar c =
    if c = '&' then "&amp;".toList else if c = '<' then "&lt;".toList
    else if c = '>' then "&gt;".toList else if c = '"' then "&quot;".toList else [c] := by
  by_cases hc : c ∈ specials
  · simp only [specials, List.mem_cons, List.not_mem_nil, or_false] at hc
    rcases hc with rfl | rfl | rfl | rfl <;> rfl
  · rw [escapeChar_of_notMem hc]
    simp only [specials, List.mem_cons, List.not_mem_nil, or_false, not_or] at hc
    simp [hc]

/-- The four replacements one after the other, of which each goes over the whole text, are a single
pass in which every special character is replaced by its entity and every other one is kept. What
comes out has no mark, each ampersand in it is the first character of an entity, decoding it gives
the text back, and so no other text is written like it. -/
theorem escape_in_one_pass (s : String) :
    escape s = String.ofList (replaceAll '"' "&quot;".toList (replaceAll '>' "&gt;".toList
      (replaceAll '<' "&lt;".toList (replaceAll '&' "&amp;".toList s.toList)))) ∧
    escape s = String.ofList (s.toList.flatMap fun c =>
      if c = '&' then "&amp;".toList else if c = '<' then "&lt;".toList
      else if c = '>' then "&gt;".toList else if c = '"' then "&quot;".toList else [c]) ∧
    (∀ c ∈ (escape s).toList, c ≠ '<' ∧ c ≠ '>' ∧ c ≠ '"') ∧
    (∀ front back, (escape s).toList = front ++ '&' :: back →
      ∃ entity ∈ ["&amp;", "&lt;", "&gt;", "&quot;"], entity.toList <+: '&' :: back) ∧
    decode (escape s).toList = s.toList ∧
    ∀ t, escape s = escape t ↔ s = t := by
  refine ⟨rfl, ?_, fun c hc => ?_, fun front back h => ?_, decode_escape s,
    fun t => escape_injective.eq_iff⟩
  · rw [escape, escapeChars_eq_flatMap, List.flatMap_congr fun c _ => escapeChar_eq c]
  · have hmark := isMark_of_mem_escape hc
    simpa [isMark] using hmark
  · rw [toList_escape] at h
    exact exists_entity_of_ampersand h

/-- A text that holds an entity already: its ampersand is escaped once more, and the entity that
comes of it is decoded to the ampersand alone. -/
theorem escape_in_one_pass_again :
    let s := "\"&lt;"
    (escape s).toList = "&quot;".toList ++ '&' :: "amp;lt;".toList ∧
      (∃ entity ∈ ["&amp;", "&lt;", "&gt;", "&quot;"], entity.toList <+: '&' :: "amp;lt;".toList) ∧
      ';' ∈ (escape s).toList ∧ (';' ≠ '<' ∧ ';' ≠ '>' ∧ ';' ≠ '"') ∧
      decode (escape s).toList = s.toList := by
  intro s
  have hescaped : (escape s).toList = "&quot;".toList ++ '&' :: "amp;lt;".toList := by
    decide +kernel
  have hmem : ';' ∈ (escape s).toList := by simp [hescaped]
  obtain ⟨_, _, hmarks, hampersands, hdecoded, _⟩ := escape_in_one_pass s
  exact ⟨hescaped, hampersands _ _ hescaped, hmem, hmarks _ hmem, hdecoded⟩

end SensorBoard.Page.Entity
