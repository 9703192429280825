import Mathlib.Data.List.TakeWhile
import SensorBoard.Decimal.Reader
import SensorBoard.Proofs.Text.Numeral

/-!
# Doubles, written and read

The grammar of the free texts that read as a double: at most one sign, and behind it a name of
infinity or of no number in any case, or digits with an optional point and an optional exponent.
Reading takes exactly these texts (`readFloat?_eq_some_iff`), and finds the double of their digits
and their exponent.
-/

namespace SensorBoard.Decimal

open Text

/-- What stands behind the digits of a number, and the exponent that it writes. -/
inductive WritesExponent : List Char → Int → Prop where
  | none : WritesExponent [] 0
  | lower {cs : List Char} {e : Int} (h : Writes cs e) : WritesExponent ('e' :: cs) e
  | upper {cs : List Char} {e : Int} (h : Writes cs e) : WritesExponent ('E' :: cs) e

/-- A number without its sign and its parts: a point stands anywhere beside a digit. -/
inductive WritesParts : List Char → Parts → Prop where
  | whole {ds tail : List Char} {e : Int} (hdigits : IsDigits ds) (he : WritesExponent tail e) :
      WritesParts (ds ++ tail) ⟨ds, [], e⟩
  | pointed {ds fs tail : List Char} {e : Int} (hdigits : IsDigits (ds ++ fs))
      (he : WritesExponent tail e) : WritesParts (ds ++ '.' :: (fs ++ tail)) ⟨ds, fs, e⟩

/-- A double without its sign. Digits behind the point count with the others, and each of them takes
one from the exponent. -/
inductive WritesMagnitude : List Char → Float → Prop where
  | infinity {cs : List Char} (h : cs.map Char.toLower = "inf".toList ∨
      cs.map Char.toLower = "infinity".toList) : WritesMagnitude cs (1 / 0)
  | notANumber {cs : List Char} (h : cs.map Char.toLower = "nan".toList) :
      WritesMagnitude cs (0 / 0)
  | number {cs ds fs : List Char} {e exponent : Int} (h : WritesParts cs ⟨ds, fs, e⟩)
      (hexponent : exponent = e - fs.length) : WritesMagnitude cs
        (Float.ofScientific (placeValue (ds ++ fs)) (decide (exponent < 0)) exponent.natAbs)

/-- A text and the double that it writes. -/
inductive WritesDouble : List Char → Float → Prop where
  | unsigned {cs : List Char} {x : Float} (h : WritesMagnitude cs x) : WritesDouble cs x
  | plus {cs : List Char} {x : Float} (h : WritesMagnitude cs x) : WritesDouble ('+' :: cs) x
  | minus {cs : List Char} {x : Float} (h : WritesMagnitude cs x) : WritesDouble ('-' :: cs) (-x)

/-! ## Digits -/

variable {cs ds tail : List Char} {c : Char}

theorem finalExponent?_eq_some_iff {e : Int} :
    finalExponent? cs = some e ↔ WritesExponent cs e := by
  constructor
  · intro h
    unfold finalExponent? at h
    split at h
    · obtain rfl := Option.some.inj h
      exact .none
    · exact .lower (readInt?_eq_some_iff.mp h)
    · exact .upper (readInt?_eq_some_iff.mp h)
    · cases h
  · rintro (_ | h | h)
    · rfl
    · exact readInt?_eq_some_iff.mpr h
    · exact readInt?_eq_some_iff.mpr h

/-- An exponent starts with no digit and with no point. -/
theorem WritesExponent.head {e : Int} (h : WritesExponent tail e) :
    ∀ c ∈ tail.head?, isDigit c = false ∧ c ≠ '.' := by
  cases h <;> simp <;> decide

theorem takeWhile_digits (hds : ∀ c ∈ ds, isDigit c = true)
    (htail : ∀ c ∈ tail.head?, isDigit c = false) :
    (ds ++ tail).takeWhile isDigit = ds ∧ (ds ++ tail).dropWhile isDigit = tail := by
  rw [List.takeWhile_append_of_pos hds, List.dropWhile_append_of_pos hds]
  cases tail with
  | nil => simp
  | cons c tail => simp [htail c rfl]

theorem splitFraction_of_head (h : ∀ c ∈ tail.head?, c ≠ '.') :
    splitFraction tail = ([], tail) := by
  unfold splitFraction
  split
  next => exact absurd rfl (h '.' rfl)
  next => rfl

theorem readParts?_of_writes {p : Parts} (h : WritesParts cs p) : readParts? cs = some p := by
  cases h with
  | @whole ds tail e hdigits he =>
    obtain ⟨htake, hdrop⟩ := takeWhile_digits hdigits.2 fun c hc => (he.head c hc).1
    have hfraction := splitFraction_of_head fun c hc => (he.head c hc).2
    simp only [readParts?, htake, hdrop, hfraction, hdigits.1, false_and, if_false,
      finalExponent?_eq_some_iff.mpr he, Option.map_some]
  | @pointed ds fs tail e hdigits he =>
    obtain ⟨hds, hfs⟩ := List.forall_mem_append.mp hdigits.2
    -- the point ends the first run of digits, and the exponent the second one
    have hpoint : ∀ c ∈ ('.' :: (fs ++ tail)).head?, isDigit c = false := by simp; decide
    obtain ⟨htake, hdrop⟩ := takeWhile_digits hds hpoint
    obtain ⟨hftake, hfdrop⟩ := takeWhile_digits hfs fun c hc => (he.head c hc).1
    have hsome : ¬(ds = [] ∧ fs = []) := by
      rw [← List.append_eq_nil_iff]
      exact hdigits.1
    simp only [readParts?, htake, hdrop, splitFraction, hftake, hfdrop, if_neg hsome,
      finalExponent?_eq_some_iff.mpr he, Option.map_some]

theorem splitFraction_cases {rest fs : List Char} (h : splitFraction rest = (fs, tail)) :
    (∀ c ∈ fs, isDigit c = true) ∧ (rest = '.' :: (fs ++ tail) ∨ fs = [] ∧ rest = tail) := by
  unfold splitFraction at h
  split at h <;> obtain ⟨rfl, rfl⟩ := Prod.mk.inj h
  next cs =>
    refine ⟨fun c hc => List.mem_takeWhile_imp hc, Or.inl ?_⟩
    rw [List.takeWhile_append_dropWhile]
  next => exact ⟨List.forall_mem_nil _, Or.inr ⟨rfl, rfl⟩⟩

theorem writes_of_readParts? {p : Parts} (h : readParts? cs = some p) : WritesParts cs p := by
  have hcs : cs.takeWhile isDigit ++ cs.dropWhile isDigit = cs := List.takeWhile_append_dropWhile
  have hds : ∀ c ∈ cs.takeWhile isDigit, isDigit c = true := fun c hc => List.mem_takeWhile_imp hc
  obtain ⟨⟨fs, tail⟩, hsplit⟩ : ∃ split, splitFraction (cs.dropWhile isDigit) = split := ⟨_, rfl⟩
  obtain ⟨hfs, hrest⟩ := splitFraction_cases hsplit
  simp only [readParts?, hsplit, Option.ite_none_left_eq_some, Option.map_eq_some_iff,
    finalExponent?_eq_some_iff] at h
  obtain ⟨hsome, e, he, rfl⟩ := h
  -- from here on the text is what was read of it, put together again
  generalize cs.takeWhile isDigit = ds at *
  rcases hrest with hrest | ⟨rfl, hrest⟩ <;> rw [← hcs, hrest]
  · refine .pointed ⟨?_, List.forall_mem_append.mpr ⟨hds, hfs⟩⟩ he
    rwa [ne_eq, List.append_eq_nil_iff]
  · exact .whole ⟨fun hnil => hsome ⟨hnil, rfl⟩, hds⟩ he

theorem readParts?_eq_some_iff {p : Parts} : readParts? cs = some p ↔ WritesParts cs p :=
  ⟨writes_of_readParts?, readParts?_of_writes⟩

theorem writesParts_point {ds fs : List Char} (h : IsDigits (ds ++ fs)) :
    WritesParts (ds ++ '.' :: fs) ⟨ds, fs, 0⟩ := by
  have hparts := WritesParts.pointed h .none
  rwa [List.append_nil] at hparts

/-! ## Words and signs -/

/-- A number starts with a digit or with a point. -/
theorem WritesParts.head {p : Parts} (h : WritesParts cs p) :
    ∃ c ∈ cs.head?, isDigit c = true ∨ c = '.' := by
  cases h with
  | @whole ds tail e hdigits he =>
    obtain ⟨d, ds, rfl⟩ := List.exists_cons_of_ne_nil hdigits.1
    exact ⟨d, rfl, Or.inl (hdigits.2 d (List.mem_cons_self ..))⟩
  | @pointed ds fs tail e hdigits he =>
    cases ds with
    | nil => exact ⟨'.', rfl, Or.inr rfl⟩
    | cons d ds => exact ⟨d, rfl, Or.inl (hdigits.2 d (List.mem_cons_self ..))⟩

theorem toLower_of_lt : ∀ n < 65, (Char.ofNat n).toLower = Char.ofNat n := by decide

/-- What starts a number is no letter in any case. -/
theorem toLower_of_number (h : isDigit c = true ∨ c = '.') : c.toLower ≠ 'i' ∧ c.toLower ≠ 'n' := by
  have hlt : c.toNat < 65 := by
    rcases h with h | rfl
    · simp only [isDigit, Bool.and_eq_true, decide_eq_true_eq] at h
      have hle : c.toNat ≤ 57 := h.2
      omega
    · decide
  have hlower := toLower_of_lt c.toNat hlt
  rw [Char.ofNat_toNat] at hlower
  rw [hlower]
  constructor <;> rintro rfl <;> exact absurd hlt (by decide)

theorem head_of_map_toLower {l : Char} {word : List Char} (h : cs.map Char.toLower = l :: word) :
    ∃ c ∈ cs.head?, c.toLower = l := by
  obtain ⟨c, _, rfl, hc, _⟩ := List.map_eq_cons_iff.mp h
  exact ⟨c, rfl, hc⟩

/-- A number is none of the words. -/
theorem WritesParts.map_toLower_ne {p : Parts} (h : WritesParts cs p) {l : Char}
    (hl : l = 'i' ∨ l = 'n') (word : List Char) : cs.map Char.toLower ≠ l :: word := by
  intro hword
  obtain ⟨c, hc, hnumber⟩ := h.head
  obtain ⟨c', hc', hlower⟩ := head_of_map_toLower hword
  obtain rfl : c = c' := Option.some.inj (hc.symm.trans hc')
  obtain ⟨hi, hn⟩ := toLower_of_number hnumber
  rcases hl with rfl | rfl
  · exact hi hlower
  · exact hn hlower

theorem WritesMagnitude.head {x : Float} (h : WritesMagnitude cs x) :
    ∃ c ∈ cs.head?, c ≠ '+' ∧ c ≠ '-' := by
  have hletter {c : Char} (h : c.toLower = 'i' ∨ c.toLower = 'n') : c ≠ '+' ∧ c ≠ '-' := by
    constructor <;> rintro rfl <;> exact absurd h (by decide)
  cases h with
  | infinity h =>
    rcases h with h | h <;> obtain ⟨c, hc, hlower⟩ := head_of_map_toLower h <;>
      exact ⟨c, hc, hletter (Or.inl hlower)⟩
  | notANumber h =>
    obtain ⟨c, hc, hlower⟩ := head_of_map_toLower h
    exact ⟨c, hc, hletter (Or.inr hlower)⟩
  | number h _ =>
    obtain ⟨c, hc, hnumber⟩ := h.head
    refine ⟨c, hc, ?_, ?_⟩ <;> rintro rfl <;> exact absurd hnumber (by decide)

theorem infinity_eq_div : infinity = 1 / 0 := by decide +kernel

theorem notANumber_eq_div : notANumber = 0 / 0 := by decide +kernel

theorem Parts.value_eq (ds fs : List Char) (e : Int) : (⟨ds, fs, e⟩ : Parts).value =
    Float.ofScientific (placeValue (ds ++ fs)) (decide (e - fs.length < 0))
      (e - fs.length : Int).natAbs := by
  rw [Parts.value, toFloat, digitsValue_eq_placeValue]

theorem readMagnitude?_eq_some_iff {x : Float} :
    readMagnitude? cs = some x ↔ WritesMagnitude cs x := by
  have hword (s : String) : String.ofList (cs.map Char.toLower) = s ↔
      cs.map Char.toLower = s.toList := by
    rw [String.ext_iff, String.toList_ofList]
  simp only [readMagnitude?, hword, infinity_eq_div, notANumber_eq_div]
  constructor
  · intro h
    split at h
    next hinfinity =>
      obtain rfl := Option.some.inj h
      exact .infinity hinfinity
    next =>
      split at h
      next hnan =>
        obtain rfl := Option.some.inj h
        exact .notANumber hnan
      next =>
        obtain ⟨⟨ds, fs, e⟩, hp, rfl⟩ := Option.map_eq_some_iff.mp h
        rw [Parts.value_eq]
        exact .number (readParts?_eq_some_iff.mp hp) rfl
  · rintro (h | h | ⟨h, rfl⟩)
    · rw [if_pos h]
    · rw [if_neg (by rw [h]; decide), if_pos h]
    · -- the words are tried first, but a number is none of them
      have hinfinity : ¬(cs.map Char.toLower = "inf".toList ∨
          cs.map Char.toLower = "infinity".toList) :=
        not_or.mpr ⟨h.map_toLower_ne (Or.inl rfl) _, h.map_toLower_ne (Or.inl rfl) _⟩
      have hnan : cs.map Char.toLower ≠ "nan".toList := h.map_toLower_ne (Or.inr rfl) _
      rw [if_neg hinfinity, if_neg hnan, readParts?_eq_some_iff.mpr h, Option.map_some,
        Parts.value_eq]

theorem readFloat?_eq_some_iff {x : Float} : readFloat? cs = some x ↔ WritesDouble cs x := by
  constructor
  · intro h
    unfold readFloat? at h
    split at h
    · exact .plus (readMagnitude?_eq_some_iff.mp h)
    · obtain ⟨y, hy, rfl⟩ := Option.map_eq_some_iff.mp h
      exact .minus (readMagnitude?_eq_some_iff.mp hy)
    · exact .unsigned (readMagnitude?_eq_some_iff.mp h)
  · rintro (h | h | h)
    · -- a number without a sign is not taken for one with a sign
      have hread := readMagnitude?_eq_some_iff.mpr h
      obtain ⟨c, hc, hplus, hminus⟩ := h.head
      unfold readFloat?
      split
      next => exact absurd (Option.some.inj hc).symm hplus
      next => exact absurd (Option.some.inj hc).symm hminus
      next => exact hread
    · exact readMagnitude?_eq_some_iff.mpr h
    · rw [readFloat?, readMagnitude?_eq_some_iff.mpr h, Option.map_some]

end SensorBoard.Decimal
