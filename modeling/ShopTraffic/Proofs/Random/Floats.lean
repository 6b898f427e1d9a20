import Mathlib.Algebra.Group.Nat.Defs
import Mathlib.Data.Nat.Basic
import Mathlib.Order.Compare
import Mathlib.Order.MinMax

/-!
The order of floats. The floats that are not negative stand in the order of their bits, the sign
left out; the place of a float in this order is its rank. All others are below zero, or are no
numbers.
-/

namespace Floats

open Float.Model Float.Model.UnpackedFloat

/-- The bits of infinity. -/
def top : Nat := 2047 * 2 ^ 52

def mantissa (n : Nat) : Nat := if n < 2 ^ 52 then n else 2 ^ 52 + n % 2 ^ 52

/-- Which power of two the digits count, from the smallest float on. -/
def scale (n : Nat) : Nat := n / 2 ^ 52 - 1

/-- A float that is not negative, and how many floats lie between zero and it. -/
inductive Ranked : Nat → UnpackedFloat → Prop
  | zero (s : Sign) : Ranked 0 (.zero s)
  | finite {n m : Nat} {e : Int} (h : 0 < m) (hn : n < top) (hm : m = mantissa n)
      (he : e = (scale n : Int) - 1074) : Ranked n (.finite .positive m e h)
  | infinity : Ranked top (.infinity .positive)

/-! ### The bits of a float -/

section Bits

variable {b : BitVec Format.binary64.numBits}

lemma toNat_mantissa (b : BitVec Format.binary64.numBits) :
    (unpackMantissa b).toNat = b.toNat % 2 ^ 52 := by
  simp [unpackMantissa]

lemma toNat_exponent (b : BitVec Format.binary64.numBits) :
    (unpackExponent b).toNat = b.toNat / 2 ^ 52 % 2 ^ 11 := by
  simp [unpackExponent, Nat.shiftRight_eq_div_pow]

lemma toNat_sign (b : BitVec Format.binary64.numBits) :
    (unpackSign b).toNat = b.toNat / 2 ^ 63 % 2 := by
  change (b.extractLsb' 63 1).toNat = _
  simp [Nat.shiftRight_eq_div_pow]

lemma mantissa_null : unpackMantissa b = 0#_ ↔ b.toNat % 2 ^ 52 = 0 := by
  rw [← toNat_mantissa, ← BitVec.toNat_inj]
  rfl

lemma exponent_null : unpackExponent b = 0#_ ↔ b.toNat / 2 ^ 52 % 2 ^ 11 = 0 := by
  rw [← toNat_exponent, ← BitVec.toNat_inj]
  rfl

lemma exponent_ones : unpackExponent b = (-1#_) ↔ b.toNat / 2 ^ 52 % 2 ^ 11 = 2047 := by
  rw [← toNat_exponent, ← BitVec.toNat_inj]
  rfl

lemma sign_eq (b : BitVec Format.binary64.numBits) :
    Sign.ofBitVec (unpackSign b) = if b.toNat < 2 ^ 63 then .positive else .negative := by
  have hs := toNat_sign b
  have hb : b.toNat < 2 ^ 64 := b.isLt
  have h0 : (0#1).toNat = 0 := rfl
  refine if_congr ?_ rfl rfl
  rw [← BitVec.toNat_inj, hs, h0]
  omega

lemma toNat_one_append (m : BitVec 52) : (1#1 ++ m).toNat = 2 ^ 52 + m.toNat := by
  rw [BitVec.toNat_append, ← Nat.shiftLeft_add_eq_or_of_lt m.isLt]
  rfl

/-- Floats that are not negative are ranked by their bits, the sign left out. -/
lemma unpack_ranked (h : b.toNat ≤ top ∨ b.toNat = 2 ^ 63) :
    Ranked (b.toNat % 2 ^ 63) (UnpackedFloat.unpack .binary64 b) := by
  have htop : top = 2047 * 2 ^ 52 := rfl
  have hbias : ((Format.binary64.exponentBias : Nat) : Int) = 1023 := rfl
  have hbits : ((Format.binary64.mantissaBitsWithoutImplicit : Nat) : Int) = 52 := rfl
  have hm := toNat_mantissa b
  have he := toNat_exponent b
  unfold UnpackedFloat.unpack
  dsimp only
  rw [sign_eq]
  by_cases hones : unpackExponent b = (-1#_)
  · have hx := exponent_ones.mp hones
    have hn : b.toNat = top := by omega
    rw [if_pos hones, if_pos (mantissa_null.mpr (by omega)), hn]
    exact .infinity
  · have hx := mt exponent_ones.mpr hones
    rw [if_neg hones]
    by_cases hnull : unpackExponent b = 0#_
    · have hy := exponent_null.mp hnull
      rw [if_pos hnull]
      by_cases hzero : unpackMantissa b = 0#_
      · have hz := mantissa_null.mp hzero
        have hn : b.toNat % 2 ^ 63 = 0 := by omega
        rw [dif_pos hzero, hn]
        exact .zero _
      · have hz := mt mantissa_null.mpr hzero
        have hn : b.toNat % 2 ^ 63 = b.toNat := by omega
        rw [dif_neg hzero, hn, if_pos (by omega : b.toNat < 2 ^ 63)]
        refine .finite _ (by omega) ?_ ?_
        · rw [hm, mantissa, if_pos (by omega)]
          omega
        · rw [he, hbias, hbits, scale]
          omega
    · have hy := mt exponent_null.mpr hnull
      have hn : b.toNat % 2 ^ 63 = b.toNat := by omega
      rw [if_neg hnull, hn, if_pos (by omega : b.toNat < 2 ^ 63)]
      refine .finite _ (by omega) ?_ ?_
      · rw [toNat_one_append, hm, mantissa, if_neg (by omega)]
      · rw [he, hbias, hbits, scale]
        omega

/-- All others are below zero or no numbers. -/
lemma unpack_below (h : ¬(b.toNat ≤ top ∨ b.toNat = 2 ^ 63)) :
    (UnpackedFloat.zero .positive).le (UnpackedFloat.unpack .binary64 b) = false := by
  have htop : top = 2047 * 2 ^ 52 := rfl
  have hb : b.toNat < 2 ^ 64 := b.isLt
  unfold UnpackedFloat.unpack
  dsimp only
  rw [sign_eq]
  by_cases hones : unpackExponent b = (-1#_)
  · have hx := exponent_ones.mp hones
    rw [if_pos hones]
    by_cases hzero : unpackMantissa b = 0#_
    · have hz := mantissa_null.mp hzero
      rw [if_pos hzero, if_neg (by omega)]
      rfl
    · rw [if_neg hzero]
      rfl
  · have hx := mt exponent_ones.mpr hones
    rw [if_neg hones, if_neg (by omega : ¬b.toNat < 2 ^ 63)]
    by_cases hnull : unpackExponent b = 0#_
    · have hy := exponent_null.mp hnull
      have hzero : unpackMantissa b ≠ 0#_ := by
        intro hzero
        have hz := mantissa_null.mp hzero
        omega
      rw [if_pos hnull, dif_neg hzero]
      rfl
    · rw [if_neg hnull]
      rfl

end Bits

/-! ### The order -/

lemma Ranked.le_top {n : Nat} {u : UnpackedFloat} (h : Ranked n u) : n ≤ top := by
  cases h with
  | zero => exact Nat.zero_le _
  | finite _ hn => exact Nat.le_of_lt hn
  | infinity => exact Nat.le_refl _

lemma pos_of_mantissa {n : Nat} (h : 0 < mantissa n) : 0 < n := by
  by_contra h0
  obtain rfl : n = 0 := by omega
  exact absurd h (by decide)

/-- The digits and their power of two are ordered as the bits are. -/
lemma compare_scale (n n' : Nat) :
    (compare ((scale n : Int) - 1074) ((scale n' : Int) - 1074)).then
      (compare (mantissa n) (mantissa n')) = compare n n' := by
  have key : ∀ {n n' : Nat}, n < n' →
      (scale n : Int) - 1074 < (scale n' : Int) - 1074 ∨
        (scale n : Int) - 1074 = (scale n' : Int) - 1074 ∧ mantissa n < mantissa n' := by
    intro n n' h
    unfold scale mantissa
    split <;> split <;> omega
  rcases lt_trichotomy n n' with h | rfl | h
  · rw [compare_lt_iff_lt.mpr h, Ordering.then_eq_lt, compare_lt_iff_lt, compare_eq_iff_eq,
      compare_lt_iff_lt]
    exact key h
  · simp
  · rw [compare_gt_iff_gt.mpr h, Ordering.then_eq_gt, compare_gt_iff_gt, compare_eq_iff_eq,
      compare_gt_iff_gt]
    exact (key h).imp_right fun ⟨he, hm⟩ => ⟨he.symm, hm⟩

/-- **Floats that are not negative are ordered by their ranks.** -/
lemma Ranked.compare {n n' : Nat} {u u' : UnpackedFloat} (h : Ranked n u) (h' : Ranked n' u') :
    u.compare u' = some (compare n n') := by
  have htop : 0 < top := by decide
  cases h with
  | zero s =>
    cases h' with
    | zero => rfl
    | finite hp hn hm he =>
      exact congrArg some (compare_lt_iff_lt.mpr (pos_of_mantissa (hm ▸ hp))).symm
    | infinity => rfl
  | infinity =>
    cases h' with
    | zero => rfl
    | finite hp hn hm he => exact congrArg some (compare_gt_iff_gt.mpr hn).symm
    | infinity => rfl
  | finite hp hn hm he =>
    cases h' with
    | zero => exact congrArg some (compare_gt_iff_gt.mpr (pos_of_mantissa (hm ▸ hp))).symm
    | infinity => exact congrArg some (compare_lt_iff_lt.mpr hn).symm
    | finite hp' hn' hm' he' =>
      subst hm hm' he he'
      exact congrArg some (compare_scale _ _)

lemma le_iff {x y : Float} : x ≤ y ↔ x.toModel.unpack.le y.toModel.unpack = true := by
  show decide (x.toModel ≤ y.toModel) = true ↔ _
  rw [decide_eq_true_iff]
  exact Iff.rfl

lemma lt_iff {x y : Float} : x < y ↔ x.toModel.unpack.lt y.toModel.unpack = true := by
  show decide (x.toModel < y.toModel) = true ↔ _
  rw [decide_eq_true_iff]
  exact Iff.rfl

def rank (x : Float) : Nat := x.toBits.toNat % 2 ^ 63

lemma bits_of_nonneg {x : Float} (h : 0 ≤ x) : x.toBits.toNat ≤ top ∨ x.toBits.toNat = 2 ^ 63 := by
  by_contra hn
  exact Bool.noConfusion ((unpack_below hn).symm.trans (le_iff.mp h))

lemma ranked {x : Float} (h : 0 ≤ x) : Ranked (rank x) x.toModel.unpack :=
  unpack_ranked (bits_of_nonneg h)

lemma Ranked.nonneg {n : Nat} {x : Float} (h : Ranked n x.toModel.unpack) : 0 ≤ x := by
  have h0 : Ranked 0 (0 : Float).toModel.unpack := .zero .positive
  rw [le_iff, UnpackedFloat.le, h0.compare h]
  cases n <;> rfl

variable {x y : Float}

lemma rank_le_rank (hx : 0 ≤ x) (hy : 0 ≤ y) : x ≤ y ↔ rank x ≤ rank y := by
  rw [le_iff, UnpackedFloat.le, (ranked hx).compare (ranked hy), Option.any_some,
    Nat.isLE_compare]

lemma rank_lt_rank (hx : 0 ≤ x) (hy : 0 ≤ y) : x < y ↔ rank x < rank y := by
  rw [lt_iff, UnpackedFloat.lt, (ranked hx).compare (ranked hy), beq_iff_eq, Option.some_inj,
    compare_lt_iff_lt]

lemma beq_zero (hx : 0 ≤ x) : (x == 0) = true ↔ rank x = 0 := by
  have h0 : Ranked 0 (0 : Float).toModel.unpack := .zero .positive
  change (x.toModel.unpack.compare (0 : Float).toModel.unpack == some .eq) = true ↔ _
  rw [(ranked hx).compare h0, beq_iff_eq, Option.some_inj, compare_eq_iff_eq]

end Floats
