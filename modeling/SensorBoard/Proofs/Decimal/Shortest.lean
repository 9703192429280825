import Mathlib.Tactic.FieldSimp
import SensorBoard.Proofs.Decimal.Double
import SensorBoard.Proofs.Decimal.Reader
import SensorBoard.Sensor.Reading

/-!
# Shown doubles

What is shown of a number. The shortest decimal of a double lies among the numbers that the double
covers (`covers_shortest`), and with its point set it writes the same number
(`writesParts_positional`). So what is shown of a finite number is a plain decimal, and no other
double is nearer to it (`showsDouble_text`).
-/

namespace SensorBoard.Decimal

open Text

/-! ## Grids -/

theorem pow_toNat {a : ℚ} (ha : a ≠ 0) (n : ℤ) : a ^ n.toNat = a ^ n * a ^ (-n).toNat := by
  rcases Int.le_total 0 n with h | h
  · rw [Int.toNat_of_nonpos (Int.neg_nonpos_of_nonneg h), pow_zero, mul_one, ← zpow_natCast,
      Int.toNat_of_nonneg h]
  · rw [Int.toNat_of_nonpos h, pow_zero, ← zpow_natCast,
      Int.toNat_of_nonneg (Int.neg_nonneg_of_nonpos h), ← zpow_add₀ ha, Int.add_right_neg,
      zpow_zero]

namespace Binary

variable {x : Binary} {place : ℤ}

/-- A scale is that of a quarter unit to a step of the grid. -/
theorem scaleAt_eq (x : Binary) (place : ℤ) : ∃ g : ℚ, 0 < g ∧
    (x.scaleAt place).unit = 2 ^ (x.exponent - 2) * g ∧
    (x.scaleAt place).grid = 10 ^ place * g := by
  refine ⟨2 ^ (-(x.exponent - 2)).toNat * 10 ^ (-place).toNat, by positivity, ?_, ?_⟩
  · have htwo := pow_toNat (two_ne_zero (α := ℚ)) (x.exponent - 2)
    simp only [scaleAt, Nat.pow_eq, Nat.cast_mul, Nat.cast_pow, Nat.cast_ofNat, htwo]
    ring
  · have hten := pow_toNat (a := (10 : ℚ)) (by norm_num) place
    simp only [scaleAt, Nat.pow_eq, Nat.cast_mul, Nat.cast_pow, Nat.cast_ofNat, hten]
    ring

theorem two_zpow_quarters (e : ℤ) :
    (2 : ℚ) ^ (e - 1) = 2 * 2 ^ (e - 2) ∧ (2 : ℚ) ^ e = 4 * 2 ^ (e - 2) := by
  have hone : (2 : ℚ) ^ (e - 1) = 2 * 2 ^ (e - 2) := by
    rw [two_zpow_eq_mul_two, mul_comm, Int.sub_sub]
    rfl
  refine ⟨hone, ?_⟩
  rw [two_zpow_eq_mul_two, hone]
  ring

/-- The lower end of what a double covers, measured by a scale. -/
theorem low_eq {unit : Nat} {g : ℚ} (hpos : 0 < x.mantissa)
    (hunit : unit = 2 ^ (x.exponent - 2) * g) :
    (((if x.narrowBelow then 4 * x.mantissa - 1 else 4 * x.mantissa - 2) * unit : Nat) : ℚ) =
      (x.value - x.gapBelow / 2) * g := by
  obtain ⟨hone, htwo⟩ := two_zpow_quarters x.exponent
  rw [value, gapBelow, hone, htwo]
  split <;> rw [Nat.cast_mul, hunit, Nat.cast_sub (by omega)] <;> push_cast <;> ring

theorem high_eq {unit : Nat} {g : ℚ} (hunit : unit = 2 ^ (x.exponent - 2) * g) :
    (((4 * x.mantissa + 2) * unit : Nat) : ℚ) = (x.value + 2 ^ x.exponent / 2) * g := by
  rw [value, (two_zpow_quarters x.exponent).2, Nat.cast_mul, hunit]
  push_cast
  ring

/-- The grid points that read back are those that the double covers. -/
theorem covers_of_readsBack {c : Nat} (hpos : 0 < x.mantissa)
    (h : x.readsBack (x.scaleAt place) c = true) : x.Covers (c * 10 ^ place) := by
  obtain ⟨g, hg, hunit, hgrid⟩ := x.scaleAt_eq place
  have hpoint : ((c * (x.scaleAt place).grid : Nat) : ℚ) = c * 10 ^ place * g := by
    rw [Nat.cast_mul, hgrid, mul_assoc]
  simp only [readsBack] at h
  -- the ends count exactly if the mantissa is even
  split at h <;> simp only [Bool.and_eq_true, decide_eq_true_eq] at h
  next heven =>
    rw [← Nat.cast_le (α := ℚ), ← Nat.cast_le (α := ℚ), low_eq hpos hunit, high_eq hunit, hpoint,
      mul_le_mul_iff_left₀ hg, mul_le_mul_iff_left₀ hg] at h
    exact ⟨h.1, h.2, fun _ => heven⟩
  next hodd =>
    rw [← Nat.cast_lt (α := ℚ), ← Nat.cast_lt (α := ℚ), low_eq hpos hunit, high_eq hunit, hpoint,
      mul_lt_mul_iff_left₀ hg, mul_lt_mul_iff_left₀ hg] at h
    exact ⟨h.1.le, h.2.le, fun heq => absurd heq (not_or.mpr ⟨h.1.ne', h.2.ne⟩)⟩

end Binary

/-! ## The shortest decimal -/

/-- The exact value of a decimal. -/
def Scientific.value (d : Scientific) : ℚ := d.digits * 10 ^ d.exponent

theorem Scientific.value_strip (fuel : Nat) (d : Scientific) : (strip fuel d).value = d.value := by
  induction fuel generalizing d with
  | zero => rfl
  | succ fuel ih =>
    rw [strip]
    split
    next h =>
      rw [ih, value, value]
      obtain ⟨k, hk⟩ := Nat.dvd_of_mod_eq_zero h.2
      simp only [hk, Nat.mul_div_cancel_left k (by decide : 0 < 10)]
      rw [zpow_add_one₀ (by norm_num)]
      push_cast
      ring
    next => rfl

namespace Binary

variable {x : Binary} {tie : Tie}

theorem value_exact (x : Binary) : x.exact.value = x.value := by
  have htwo := pow_toNat (two_ne_zero (α := ℚ)) x.exponent
  rw [Scientific.value, exact, value]
  simp only [Nat.pow_eq, Nat.cast_mul, Nat.cast_pow, Nat.cast_ofNat, htwo, zpow_neg, zpow_natCast]
  rw [show (10 : ℚ) = 2 * 5 by norm_num, mul_pow]
  field_simp

theorem covers_value (x : Binary) : x.Covers x.value := by
  have hgap := x.gapBelow_pos
  have hpos : (0 : ℚ) < 2 ^ x.exponent := by positivity
  refine ⟨by linarith, by linarith, fun h => ?_⟩
  rcases h with h | h <;> linarith

theorem readsBack_of_nearest? {place : ℤ} {c : Nat} (h : x.nearest? tie place = some c) :
    x.readsBack (x.scaleAt place) c = true := by
  simp only [nearest?] at h
  -- of the two neighbours only those that read back are taken
  split at h
  next hbelow _ => exact Option.some.inj h ▸ hbelow
  next _ habove => exact Option.some.inj h ▸ habove
  next => cases h
  next hbelow habove =>
    split at h <;> obtain rfl := Option.some.inj h
    · exact hbelow
    · exact habove
    · exact habove
    · split
      · exact hbelow
      · exact habove

/-- A double covers its shortest decimal. -/
theorem covers_shortest (hpos : 0 < x.mantissa) (tie : Tie) : x.Covers (x.shortest tie).value := by
  rw [shortest, Scientific.value_strip]
  cases hfound : (List.range 17).findSome? fun i : Nat =>
      (x.nearest? tie (x.magnitude - 1 - i)).map fun c =>
        (⟨c, x.magnitude - 1 - i⟩ : Scientific) with
  | some d =>
    obtain ⟨i, _, hi⟩ := List.exists_of_findSome?_eq_some hfound
    obtain ⟨c, hc, rfl⟩ := Option.map_eq_some_iff.mp hi
    exact covers_of_readsBack hpos (readsBack_of_nearest? hc)
  | none =>
    rw [Option.getD_none, value_exact]
    exact x.covers_value

end Binary

/-! ## Written out -/

/-- Digits with their point set write their number with its exponent, without an exponent of their
own. -/
theorem writesParts_positional {ds : List Char} (hds : IsDigits ds) (exponent : ℤ) :
    ∃ whole fraction, WritesParts (positional false ds exponent) ⟨whole, fraction, 0⟩ ∧
      whole ≠ [] ∧
      (placeValue (whole ++ fraction) : ℚ) / 10 ^ fraction.length =
        placeValue ds * 10 ^ exponent := by
  have hten : (10 : ℚ) ≠ 0 := by norm_num
  rw [positional]
  split
  next hge =>
    -- zeros behind the digits, and no point
    obtain ⟨k, rfl⟩ := Int.eq_ofNat_of_zero_le hge
    have hdigits : IsDigits (ds ++ List.replicate k '0') :=
      ⟨List.append_ne_nil_of_left_ne_nil hds.1 _,
        List.forall_mem_append.mpr ⟨hds.2, isDigit_zeros k⟩⟩
    refine ⟨ds ++ List.replicate k '0', [], .whole hdigits .none, hdigits.1, ?_⟩
    rw [List.append_nil, placeValue_append, placeValue_zeros, List.length_replicate]
    simp
  next hneg =>
    split
    next hpoint =>
      -- the point stands among the digits
      refine ⟨_, _, writesParts_point ((List.take_append_drop _ ds).symm ▸ hds), ?_, ?_⟩
      · rw [ne_eq, List.take_eq_nil_iff]
        exact not_or.mpr ⟨by omega, hds.1⟩
      · rw [List.take_append_drop, div_eq_mul_inv, ← zpow_natCast, ← zpow_neg, List.length_drop]
        congr 2
        omega
    next hpoint =>
      -- zeros behind the point and before the digits
      generalize hn : (-(ds.length + exponent : ℤ)).toNat = n
      have hzeros : placeValue ('0' :: List.replicate n '0') = 0 := placeValue_zeros (n + 1)
      have hdigits : IsDigits (['0'] ++ (List.replicate n '0' ++ ds)) :=
        ⟨List.cons_ne_nil _ _, List.forall_mem_append.mpr ⟨isDigit_zeros 1,
          List.forall_mem_append.mpr ⟨isDigit_zeros n, hds.2⟩⟩⟩
      refine ⟨['0'], _, writesParts_point hdigits, List.cons_ne_nil _ _, ?_⟩
      rw [List.singleton_append, ← List.cons_append, placeValue_append, hzeros, Nat.zero_mul,
        Nat.zero_add, div_eq_mul_inv, ← zpow_natCast, ← zpow_neg, List.length_append,
        List.length_replicate]
      congr 2
      omega

/-- A minus if the sign bit is set. -/
def signText (x : Float) : String := if 2 ^ 63 ≤ x.toBits.toNat then "-" else ""

/-- A double and a text that shows it: a finite one is shown by a plain decimal that no other double
is nearer to. -/
inductive ShowsDouble (x : Float) : String → Prop where
  | notANumber (h : x.isNaN = true) : ShowsDouble x "NaN"
  | infinity (h : x.isInf = true) : ShowsDouble x (signText x ++ "inf")
  | finite {core whole fraction : List Char} (hcore : WritesParts core ⟨whole, fraction, 0⟩)
      (hwhole : whole ≠ [])
      (hnearest : IsNearest (placeValue (whole ++ fraction) / 10 ^ fraction.length) x) :
      ShowsDouble x (signText x ++ String.ofList core)

theorem isFinite_of_not {x : Float} (hnan : ¬x.isNaN = true) (hinf : ¬x.isInf = true) :
    x.isFinite = true := by
  change ¬x.toModel.unpack.isNaN = true at hnan
  change ¬x.toModel.unpack.isInf = true at hinf
  change x.toModel.unpack.isFinite = true
  cases hx : x.toModel.unpack with
  | notANumber => exact absurd (hx ▸ rfl) hnan
  | infinity s => exact absurd (hx ▸ rfl) hinf
  | zero s => rfl
  | finite s m e hm => rfl

theorem signText_eq (x : Float) : (if x.toBits >>> 63 = 1 then "-" else "") = signText x := by
  have hbit : x.toBits >>> 63 = 1 ↔ 2 ^ 63 ≤ x.toBits.toNat := by
    have hlt := x.toBits.toNat_lt
    rw [← UInt64.toNat_inj, UInt64.toNat_shiftRight, Nat.shiftRight_eq_div_pow]
    change x.toBits.toNat / 2 ^ 63 = 1 ↔ _
    omega
  rw [signText]
  simp only [hbit]

/-- What is shown of a number is nearest to the number. -/
theorem showsDouble_text (x : Float) : ShowsDouble x (SensorValue.numberStyle.text x) := by
  simp only [Style.text, signText_eq]
  split
  next hnan => exact .notANumber hnan
  next hnan =>
    split
    next hinf => exact .infinity hinf
    next hinf =>
      have hx := isFinite_of_not hnan hinf
      split
      next hzero =>
        have hcore : WritesParts ['0'] ⟨['0'], [], 0⟩ :=
          .whole ⟨List.cons_ne_nil _ _, isDigit_zeros 1⟩ .none
        have hvalue : (placeValue (['0'] ++ []) : ℚ) / 10 ^ ([] : List Char).length =
            (Binary.ofBits x.toBits).value := by
          have hplace : placeValue (['0'] ++ []) = 0 := placeValue_zeros 1
          rw [hplace, Binary.value, hzero]
          simp
        refine .finite hcore (List.cons_ne_nil _ _) (isNearest_of_covers hx ?_)
        rw [hvalue]
        exact Binary.covers_value _
      next hne =>
        obtain ⟨whole, fraction, hcore, hwhole, hvalue⟩ := writesParts_positional
          (isDigits_decimal ((Binary.ofBits x.toBits).shortest .up).digits)
          ((Binary.ofBits x.toBits).shortest .up).exponent
        refine .finite hcore hwhole (isNearest_of_covers hx ?_)
        rw [hvalue, placeValue_decimal]
        exact Binary.covers_shortest (Nat.pos_of_ne_zero hne) .up

end SensorBoard.Decimal
