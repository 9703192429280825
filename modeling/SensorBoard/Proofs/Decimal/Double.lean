import Mathlib.Algebra.Order.Field.Power
import Mathlib.Data.Rat.Cast.Order
import Mathlib.Tactic.Linarith
import Mathlib.Tactic.Positivity
import Mathlib.Tactic.Ring
import SensorBoard.Decimal.Shortest

/-!
# Doubles and numbers

The exact values of doubles, by the library's own account of them, and which double is nearest to a
number. The bits of a double write its mantissa and its exponent (`unpack_eq`), doubles are a gap
apart from each other (`Legal.value_le_or_le`), and what lies between the middles of the two gaps
beside a double is nearest to it (`isNearest_of_covers`).
-/

namespace SensorBoard.Decimal

open Float.Model (UnpackedFloat Format)

theorem toNat_unpackMantissa (bits : BitVec 64) :
    (@UnpackedFloat.unpackMantissa .binary64 bits).toNat = bits.toNat % 2 ^ 52 := by
  simp [UnpackedFloat.unpackMantissa]

theorem toNat_unpackExponent (bits : BitVec 64) :
    (@UnpackedFloat.unpackExponent .binary64 bits).toNat =
      bits.toNat / 2 ^ 52 % 2 ^ 11 := by
  simp [UnpackedFloat.unpackExponent, Nat.shiftRight_eq_div_pow]

theorem ofBits_eq {bits : UInt64} {f e : Nat} (hf : f = bits.toNat % 2 ^ 52)
    (he : e = bits.toNat / 2 ^ 52 % 2 ^ 11) : Binary.ofBits bits =
      if e = 0 then ⟨f, -1074, false⟩ else ⟨2 ^ 52 + f, e - 1075, f == 0 && decide (1 < e)⟩ := by
  have hm : (bits &&& 0xFFFFFFFFFFFFF).toNat = f := by
    rw [UInt64.toNat_and, hf]
    exact Nat.and_two_pow_sub_one_eq_mod _ 52
  have he : ((bits >>> 52) &&& 0x7FF).toNat = e := by
    rw [UInt64.toNat_and, UInt64.toNat_shiftRight, he, ← Nat.shiftRight_eq_div_pow]
    exact Nat.and_two_pow_sub_one_eq_mod _ 11
  rw [Binary.ofBits, hm, he]
  rfl

/-- The leading bit of a mantissa is not written. -/
theorem toNat_one_append (f : BitVec 52) : (1#1 ++ f).toNat = 2 ^ 52 + f.toNat := by
  rw [BitVec.toNat_append, ← Nat.shiftLeft_add_eq_or_of_lt f.isLt]
  rfl

/-- The bits of a finite double write what it is unpacked to. -/
theorem unpack_eq {x : Float} (h : x.isFinite = true) :
    ∃ s, (∃ hm, x.toModel.unpack =
        .finite s (Binary.ofBits x.toBits).mantissa (Binary.ofBits x.toBits).exponent hm) ∨
      x.toModel.unpack = .zero s ∧ (Binary.ofBits x.toBits).mantissa = 0 := by
  have hbits := ofBits_eq (toNat_unpackMantissa x.toBits.toBitVec)
    (toNat_unpackExponent x.toBits.toBitVec)
  have hunpack : x.toModel.unpack = UnpackedFloat.unpack .binary64 x.toBits.toBitVec := rfl
  change x.toModel.unpack.isFinite = true at h
  delta UnpackedFloat.unpack at hunpack
  dsimp only at hunpack
  refine ⟨.ofBitVec (@UnpackedFloat.unpackSign .binary64 x.toBits.toBitVec), ?_⟩
  by_cases hspecial : @UnpackedFloat.unpackExponent .binary64 x.toBits.toBitVec = -1#11
  · rw [hunpack, if_pos hspecial] at h
    split at h <;> cases h
  rw [if_neg hspecial] at hunpack
  by_cases hsmall : @UnpackedFloat.unpackExponent .binary64 x.toBits.toBitVec = 0#11
  · have hexponent : (@UnpackedFloat.unpackExponent .binary64 x.toBits.toBitVec).toNat = 0 :=
      congrArg BitVec.toNat hsmall
    rw [if_pos hsmall] at hunpack
    rw [if_pos hexponent] at hbits
    rw [hunpack, hbits]
    by_cases hzero : @UnpackedFloat.unpackMantissa .binary64 x.toBits.toBitVec = 0#52
    · rw [dif_pos hzero]
      exact Or.inr ⟨rfl, congrArg BitVec.toNat hzero⟩
    · rw [dif_neg hzero, hexponent]
      exact Or.inl ⟨Nat.pos_of_ne_zero fun h => hzero (BitVec.eq_of_toNat_eq h), rfl⟩
  · have hexponent : (@UnpackedFloat.unpackExponent .binary64 x.toBits.toBitVec).toNat ≠ 0 :=
      fun h => hsmall (BitVec.eq_of_toNat_eq h)
    rw [if_neg hsmall] at hunpack
    rw [if_neg hexponent] at hbits
    rw [hunpack, hbits]
    refine Or.inl ⟨Nat.add_pos_left (by decide) _, ?_⟩
    congr 1
    exact toNat_one_append _

/-! ## Exact values -/

/-- The exact value of a finite double without its sign. -/
def size (x : Float) : ℚ :=
  match x.toModel.unpack with
  | .finite _ m e _ => m * 2 ^ e
  | _ => 0

/-- No double is nearer to a number than this one, and if another is as near, this one is even. -/
structure IsNearest (r : ℚ) (x : Float) : Prop where
  finite : x.isFinite = true
  le : ∀ y : Float, y.isFinite = true → |r - size x| ≤ |r - size y|
  even : ∀ y : Float, y.isFinite = true → size y ≠ size x → |r - size y| = |r - size x| →
    x.toBits.toNat % 2 = 0

namespace Binary

variable {b b' : Binary} {r : ℚ}

def value (b : Binary) : ℚ := b.mantissa * 2 ^ b.exponent

/-- The distance to the next smaller value. -/
def gapBelow (b : Binary) : ℚ := if b.narrowBelow then 2 ^ (b.exponent - 1) else 2 ^ b.exponent

/-- The mantissa has 53 bits, fewer only with the smallest exponent. -/
structure Legal (b : Binary) : Prop where
  mantissa_lt : b.mantissa < 2 ^ 53
  exponent_ge : -1074 ≤ b.exponent
  normal : -1074 < b.exponent → 2 ^ 52 ≤ b.mantissa
  narrow : b.narrowBelow = true ↔ b.mantissa = 2 ^ 52 ∧ -1074 < b.exponent

theorem legal_ofBits (bits : UInt64) : (ofBits bits).Legal := by
  rw [ofBits_eq rfl rfl]
  have hlt := Nat.mod_lt bits.toNat (Nat.two_pow_pos 52)
  split
  next => exact ⟨by simp only; omega, le_refl _, by simp, by simp⟩
  next hne =>
    refine ⟨by simp only; omega, by simp only; omega, fun _ => Nat.le_add_right _ _, ?_⟩
    simp only [Bool.and_eq_true, beq_iff_eq, decide_eq_true_eq]
    omega

theorem two_zpow_eq_mul_two (e : Int) : (2 : ℚ) ^ e = 2 ^ (e - 1) * 2 := by
  rw [← zpow_add_one₀ two_ne_zero, Int.sub_add_cancel]

theorem gapBelow_pos : 0 < b.gapBelow := by
  unfold gapBelow
  split <;> positivity

theorem gapBelow_le : b.gapBelow ≤ 2 ^ b.exponent := by
  have hpos : (0 : ℚ) < 2 ^ (b.exponent - 1) := by positivity
  rw [gapBelow, two_zpow_eq_mul_two b.exponent]
  split <;> linarith

/-- With no smaller exponent, the other value is a whole number of gaps. -/
theorem value_le_or_le_of_le (hle : b.exponent ≤ b'.exponent) (hne : b'.value ≠ b.value) :
    b'.value ≤ b.value - b.gapBelow ∨ b.value + 2 ^ b.exponent ≤ b'.value := by
  have hpos : (0 : ℚ) < 2 ^ b.exponent := by positivity
  have hgap := gapBelow_le (b := b)
  obtain ⟨k, hk⟩ := Int.le.dest hle
  have hvalue : b'.value = (b'.mantissa * 2 ^ k : Nat) * 2 ^ b.exponent := by
    rw [value, ← hk, zpow_add₀ two_ne_zero, zpow_natCast]
    push_cast
    ring
  generalize b'.mantissa * 2 ^ k = n at hvalue
  rw [hvalue] at hne ⊢
  rw [value] at hne ⊢
  have hne : n ≠ b.mantissa := fun h => hne (h ▸ rfl)
  rcases Nat.lt_or_gt_of_ne hne with hlt | hgt
  · have hstep : (n : ℚ) + 1 ≤ b.mantissa := by exact_mod_cast hlt
    left
    nlinarith
  · have hstep : (b.mantissa : ℚ) + 1 ≤ n := by exact_mod_cast hgt
    right
    nlinarith

/-- With a smaller exponent, the other value is below the smallest one with this exponent. -/
theorem Legal.value_le_of_lt (h : b.Legal) (h' : b'.Legal) (hlt : b'.exponent < b.exponent) :
    b'.value ≤ b.value - b.gapBelow := by
  have hexponent := lt_of_le_of_lt h'.exponent_ge hlt
  have hbelow : b'.value ≤ (2 ^ 53 - 1) * 2 ^ (b.exponent - 1) := by
    have hmantissa : (b'.mantissa : ℚ) + 1 ≤ 2 ^ 53 := by exact_mod_cast h'.mantissa_lt
    have hpower : (2 : ℚ) ^ b'.exponent ≤ 2 ^ (b.exponent - 1) :=
      zpow_le_zpow_right₀ one_le_two (by omega)
    rw [value]
    gcongr
    linarith
  have hgap := gapBelow_le (b := b)
  have hpos : (0 : ℚ) < 2 ^ (b.exponent - 1) := by positivity
  rw [two_zpow_eq_mul_two b.exponent] at hgap
  have hvalue : b.value = b.mantissa * (2 ^ (b.exponent - 1) * 2) := by
    rw [value, ← two_zpow_eq_mul_two]
  rw [hvalue]
  -- below a power of two the gap is half as wide
  by_cases hnarrow : b.mantissa = 2 ^ 52
  · have hhalf : b.gapBelow = 2 ^ (b.exponent - 1) := if_pos (h.narrow.mpr ⟨hnarrow, hexponent⟩)
    rw [hhalf, hnarrow]
    push_cast
    linarith
  · have hstep : (2 : ℚ) ^ 52 + 1 ≤ b.mantissa := by
      exact_mod_cast lt_of_le_of_ne (h.normal hexponent) (Ne.symm hnarrow)
    nlinarith

/-- Values of doubles that differ are at least a gap apart. -/
theorem Legal.value_le_or_le (h : b.Legal) (h' : b'.Legal) (hne : b'.value ≠ b.value) :
    b'.value ≤ b.value - b.gapBelow ∨ b.value + 2 ^ b.exponent ≤ b'.value := by
  obtain hle | hlt := le_or_gt b.exponent b'.exponent
  · exact value_le_or_le_of_le hle hne
  · exact Or.inl (h.value_le_of_lt h' hlt)

/-- A number lies between the middles to the values beside a double, and at one of them only if the
mantissa is even. -/
structure Covers (b : Binary) (r : ℚ) : Prop where
  low : b.value - b.gapBelow / 2 ≤ r
  high : r ≤ b.value + 2 ^ b.exponent / 2
  even : r = b.value - b.gapBelow / 2 ∨ r = b.value + 2 ^ b.exponent / 2 → b.mantissa % 2 = 0

/-- What a double covers is nearer to it than to any other double. -/
theorem Covers.nearest (hr : b.Covers r) (h : b.Legal) (h' : b'.Legal) :
    |r - b.value| ≤ |r - b'.value| ∧
      (b'.value ≠ b.value → |r - b'.value| = |r - b.value| → b.mantissa % 2 = 0) := by
  have hlow := hr.low
  have hhigh := hr.high
  have hgap := gapBelow_pos (b := b)
  have hpos : (0 : ℚ) < 2 ^ b.exponent := by positivity
  by_cases hne : b'.value = b.value
  · rw [hne]
    exact ⟨le_refl _, fun h => absurd rfl h⟩
  obtain hle | hge := h.value_le_or_le h' hne
  · -- the other value is below, so only the lower middle is as near to it
    rw [abs_of_nonneg (by linarith : 0 ≤ r - b'.value)]
    refine ⟨abs_le.mpr ⟨by linarith, by linarith⟩, fun _ heq => hr.even (Or.inl ?_)⟩
    rcases abs_cases (r - b.value) with ⟨habs, _⟩ | ⟨habs, _⟩ <;> linarith
  · rw [abs_of_nonpos (by linarith : r - b'.value ≤ 0)]
    refine ⟨abs_le.mpr ⟨by linarith, by linarith⟩, fun _ heq => hr.even (Or.inr ?_)⟩
    rcases abs_cases (r - b.value) with ⟨habs, _⟩ | ⟨habs, _⟩ <;> linarith

end Binary

theorem size_eq {x : Float} (h : x.isFinite = true) : size x = (Binary.ofBits x.toBits).value := by
  obtain ⟨s, ⟨hm, hx⟩ | ⟨hx, hzero⟩⟩ := unpack_eq h
  · rw [size, hx]
    rfl
  · rw [size, hx, Binary.value, hzero]
    simp

theorem mantissa_ofBits_mod_two (bits : UInt64) :
    (Binary.ofBits bits).mantissa % 2 = bits.toNat % 2 := by
  rw [ofBits_eq rfl rfl]
  split <;> simp only <;> omega

/-- A double is nearest to what its bits cover. -/
theorem isNearest_of_covers {x : Float} {r : ℚ} (hx : x.isFinite = true)
    (hr : (Binary.ofBits x.toBits).Covers r) : IsNearest r x := by
  have hnearest (y : Float) :=
    hr.nearest (Binary.legal_ofBits x.toBits) (Binary.legal_ofBits y.toBits)
  refine ⟨hx, fun y hy => ?_, fun y hy => ?_⟩
  · rw [size_eq hx, size_eq hy]
    exact (hnearest y).1
  · rw [size_eq hx, size_eq hy, ← mantissa_ofBits_mod_two]
    exact (hnearest y).2

end SensorBoard.Decimal
