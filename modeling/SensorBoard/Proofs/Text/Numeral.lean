import Mathlib.Data.List.Induction
import Mathlib.Data.Nat.Digits.Defs
import SensorBoard.Text.Blank
import SensorBoard.Text.Numeral

/-!
# Numerals, written and read

A numeral is at least one digit with at most one sign in front, and it writes the number that its
digits make by the weights of their places. Reading finds what a numeral writes and takes nothing
else (`readInt?_eq_some_iff`), and the decimal text of an integer is a numeral for it
(`writes_decimalInt`).
-/

namespace SensorBoard.Text

/-- Digits and nothing else, and at least one of them. -/
def IsDigits (cs : List Char) : Prop := cs ≠ [] ∧ ∀ c ∈ cs, isDigit c = true

/-- The number that digits make, the last one with the weight one. -/
def placeValue (cs : List Char) : Nat := Nat.ofDigits 10 (cs.reverse.map digitValue)

/-- A numeral and the integer that it writes. -/
inductive Writes : List Char → Int → Prop where
  | unsigned {ds : List Char} (h : IsDigits ds) : Writes ds (placeValue ds)
  | plus {ds : List Char} (h : IsDigits ds) : Writes ('+' :: ds) (placeValue ds)
  | minus {ds : List Char} (h : IsDigits ds) : Writes ('-' :: ds) (-placeValue ds)

/-! ## Reading -/

theorem placeValue_append_singleton (cs : List Char) (c : Char) :
    placeValue (cs ++ [c]) = digitValue c + 10 * placeValue cs := by
  rw [placeValue, List.reverse_append, List.reverse_singleton, List.singleton_append,
    List.map_cons, Nat.ofDigits_cons, placeValue]

theorem digitsValue_append_singleton (cs : List Char) (c : Char) :
    digitsValue (cs ++ [c]) = 10 * digitsValue cs + digitValue c := by
  rw [digitsValue, List.foldl_append]
  rfl

theorem digitsValue_eq_placeValue (cs : List Char) : digitsValue cs = placeValue cs := by
  induction cs using List.reverseRecOn with
  | nil => rfl
  | append_singleton cs c ih =>
    rw [digitsValue_append_singleton, placeValue_append_singleton, ih, Nat.add_comm]

theorem placeValue_append (cs ds : List Char) :
    placeValue (cs ++ ds) = placeValue cs * 10 ^ ds.length + placeValue ds := by
  rw [placeValue, List.reverse_append, List.map_append, Nat.ofDigits_append, List.length_map,
    List.length_reverse, Nat.mul_comm, Nat.add_comm]
  rfl

theorem placeValue_zeros (n : Nat) : placeValue (List.replicate n '0') = 0 := by
  induction n with
  | zero => rfl
  | succ n ih =>
    rw [List.replicate_succ', placeValue_append_singleton, ih]
    rfl

theorem isDigit_zeros (n : Nat) : ∀ c ∈ List.replicate n '0', isDigit c = true := by
  intro c hc
  rw [List.eq_of_mem_replicate hc]
  decide

theorem readNat?_eq_some_iff {cs : List Char} {n : Nat} :
    readNat? cs = some n ↔ IsDigits cs ∧ placeValue cs = n := by
  rw [readNat?, Option.ite_none_right_eq_some, Option.some.injEq, digitsValue_eq_placeValue,
    IsDigits, List.all_eq_true]

/-- A sign is no digit. -/
theorem readInt?_of_isDigits {ds : List Char} (h : IsDigits ds) :
    readInt? ds = some (placeValue ds : Int) := by
  have hread : readNat? ds = some (placeValue ds) := readNat?_eq_some_iff.mpr ⟨h, rfl⟩
  unfold readInt?
  split
  next => exact absurd (h.2 '+' (List.mem_cons_self ..)) (by decide)
  next => exact absurd (h.2 '-' (List.mem_cons_self ..)) (by decide)
  next => rw [hread]; rfl

theorem Writes.readInt? {cs : List Char} {i : Int} (h : Writes cs i) : readInt? cs = some i := by
  cases h with
  | unsigned h => exact readInt?_of_isDigits h
  | plus h => rw [Text.readInt?, readNat?_eq_some_iff.mpr ⟨h, rfl⟩]; rfl
  | minus h => rw [Text.readInt?, readNat?_eq_some_iff.mpr ⟨h, rfl⟩]; rfl

/-- Reading finds the numerals and nothing else. -/
theorem readInt?_eq_some_iff {cs : List Char} {i : Int} : readInt? cs = some i ↔ Writes cs i := by
  refine ⟨fun h => ?_, Writes.readInt?⟩
  unfold readInt? at h
  -- one case for each sign, and one for none
  split at h <;> obtain ⟨n, hn, rfl⟩ := Option.map_eq_some_iff.mp h <;>
    obtain ⟨hdigits, rfl⟩ := readNat?_eq_some_iff.mp hn
  · exact .plus hdigits
  · exact .minus hdigits
  · exact .unsigned hdigits

theorem isBlank_of_isDigit {c : Char} (h : isDigit c = true) : isBlank c = false := by
  have hdigits : ∀ n < 58, 48 ≤ n → inRanges blankRanges n = false := by decide
  simp only [isDigit, Bool.and_eq_true, decide_eq_true_eq] at h
  have hlt : c.toNat < 58 := Nat.lt_succ_of_le h.2
  exact hdigits c.toNat hlt h.1

/-- A numeral has no blank in it. -/
theorem isBlank_of_writes {cs : List Char} {i : Int} (h : Writes cs i) :
    ∀ c ∈ cs, isBlank c = false := by
  cases h with
  | unsigned h => exact fun c hc => isBlank_of_isDigit (h.2 c hc)
  | plus h =>
    exact List.forall_mem_cons.mpr ⟨by decide, fun c hc => isBlank_of_isDigit (h.2 c hc)⟩
  | minus h =>
    exact List.forall_mem_cons.mpr ⟨by decide, fun c hc => isBlank_of_isDigit (h.2 c hc)⟩

/-! ## Writing -/

theorem isDigit_digitChar : ∀ d < 10, isDigit (digitChar d) = true := by decide

theorem digitValue_digitChar : ∀ d < 10, digitValue (digitChar d) = d := by decide

theorem isDigits_decimal (n : Nat) : IsDigits (decimal n) := by
  induction n using decimal.induct with
  | case1 n hn =>
    rw [decimal, if_pos hn]
    exact ⟨List.cons_ne_nil _ _, List.forall_mem_singleton.mpr (isDigit_digitChar n hn)⟩
  | case2 n hn ih =>
    rw [decimal, if_neg hn]
    refine ⟨List.append_ne_nil_of_right_ne_nil _ (List.cons_ne_nil _ _), ?_⟩
    refine List.forall_mem_append.mpr ⟨ih.2, List.forall_mem_singleton.mpr ?_⟩
    exact isDigit_digitChar _ (by omega)

theorem placeValue_decimal (n : Nat) : placeValue (decimal n) = n := by
  induction n using decimal.induct with
  | case1 n hn =>
    rw [decimal, if_pos hn]
    simp [placeValue, digitValue_digitChar n hn]
  | case2 n hn ih =>
    rw [decimal, if_neg hn, placeValue_append_singleton, ih, digitValue_digitChar _ (by omega)]
    exact Nat.mod_add_div n 10

/-- The decimal text of an integer is a numeral for it. -/
theorem writes_decimalInt (i : Int) : Writes (decimalInt i) i := by
  have hdigits := isDigits_decimal i.natAbs
  have hvalue := placeValue_decimal i.natAbs
  rw [decimalInt]
  split
  next hneg =>
    have hwrites := Writes.minus hdigits
    rwa [hvalue, show -(i.natAbs : Int) = i by omega] at hwrites
  next hneg =>
    have hwrites := Writes.unsigned hdigits
    rwa [hvalue, show (i.natAbs : Int) = i by omega] at hwrites

end SensorBoard.Text
