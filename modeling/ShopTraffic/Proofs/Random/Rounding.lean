import ShopTraffic.Proofs.Random.Floats

/-!
How floats are rounded. The rank of a product, of a sum or of a whole number is the rank that is
nearest to it; rounding keeps the order, so products of larger floats are not smaller, and a sum of
floats that are not negative is not negative, and above zero if one of them is.
-/

namespace Floats

open Float.Model Float.Model.UnpackedFloat

/-! ### Digits that are shifted out -/

namespace Rounding

/-- The order of digits with what was shifted out of them. -/
def key (d : ExtendedMantissa) : Nat := 4 * d.mantissa + 2 * d.roundBit.toNat + d.stickyBit.toNat

lemma key_shift {d d' : ExtendedMantissa} (h : key d ≤ key d') :
    key d.shiftRightOne ≤ key d'.shiftRightOne := by
  obtain ⟨m, r, s⟩ := d
  obtain ⟨m', r', s'⟩ := d'
  have hm : ∀ n : Nat, (n % 2 != 0).toNat = n % 2 := by
    intro n
    rcases Nat.mod_two_eq_zero_or_one n with h | h <;> rw [h] <;> rfl
  simp only [key, ExtendedMantissa.shiftRightOne, hm] at h ⊢
  cases r <;> cases s <;> cases r' <;> cases s' <;>
    simp only [Bool.toNat_false, Bool.toNat_true, Bool.or_false, Bool.or_true] at h ⊢ <;> omega

lemma rounded_key {d d' : ExtendedMantissa} (h : key d ≤ key d') :
    d.roundedMantissa ≤ d'.roundedMantissa := by
  obtain ⟨m, r, s⟩ := d
  obtain ⟨m', r', s'⟩ := d'
  simp only [key] at h
  cases r <;> cases s <;> cases r' <;> cases s' <;>
    simp only [ExtendedMantissa.roundedMantissa, ExtendedMantissa.accuracy,
      Accuracy.roundToNearestEven, Bool.toNat_false, Bool.toNat_true] at h ⊢ <;> omega

def shifted (n : Nat) (d : ExtendedMantissa) : ExtendedMantissa :=
  n.repeat ExtendedMantissa.shiftRightOne d

lemma key_shifted {d d' : ExtendedMantissa} (h : key d ≤ key d') (n : Nat) :
    key (shifted n d) ≤ key (shifted n d') := by
  induction n with
  | zero => exact h
  | succ n ih => exact key_shift ih

lemma shifted_add (n k : Nat) (d : ExtendedMantissa) :
    shifted (n + k) d = shifted n (shifted k d) := by
  induction n with
  | zero => rw [Nat.zero_add]; rfl
  | succ n ih => rw [Nat.succ_add]; exact congrArg _ ih

lemma shifted_exact (n a : Nat) : shifted n ⟨a * 2 ^ n, false, false⟩ = ⟨a, false, false⟩ := by
  induction n generalizing a with
  | zero => simp [shifted, Nat.repeat]
  | succ n ih =>
    rw [Nat.pow_succ', ← Nat.mul_assoc, Nat.add_comm, shifted_add, ih]
    simp [shifted, Nat.repeat, ExtendedMantissa.shiftRightOne]

/-- A number rounded to the multiples of `2 ^ n`, counted in these. -/
def rounded (m n : Nat) : Nat := (shifted n ⟨m, false, false⟩).roundedMantissa

lemma rounded_mono {m m' : Nat} (h : m ≤ m') (n : Nat) : rounded m n ≤ rounded m' n :=
  rounded_key (key_shifted (by simp [key]; omega) n)

lemma rounded_scale (a n k : Nat) : rounded (a * 2 ^ k) (n + k) = rounded a n := by
  rw [rounded, shifted_add, shifted_exact]
  rfl

lemma rounded_exact (a n : Nat) : rounded (a * 2 ^ n) n = a := by
  rw [rounded, shifted_exact]
  rfl

lemma rounded_zero (n : Nat) : rounded 0 n = 0 := by
  have h := rounded_exact 0 n
  rwa [Nat.zero_mul] at h

/-- A number of at most `n + 53` digits, rounded to the multiples of `2 ^ n`. -/
lemma rounded_le {m n : Nat} (h : m.log2 ≤ n + 52) : rounded m n ≤ 2 ^ 53 := by
  have hm : m ≤ 2 ^ 53 * 2 ^ n := by
    rw [← Nat.pow_add]
    exact Nat.le_trans (Nat.le_of_lt Nat.lt_log2_self) (Nat.pow_le_pow_right (by omega) (by omega))
  have := rounded_mono hm n
  rwa [rounded_exact] at this

lemma le_rounded {m n : Nat} (hm : 0 < m) (h : n + 52 ≤ m.log2) : 2 ^ 52 ≤ rounded m n := by
  have hm : 2 ^ 52 * 2 ^ n ≤ m := by
    rw [← Nat.pow_add]
    exact Nat.le_trans (Nat.pow_le_pow_right (by omega) (by omega))
      (Nat.log2_self_le (by omega))
  have := rounded_mono hm n
  rwa [rounded_exact] at this

end Rounding

open Rounding

lemma log2_mono {m n : Nat} (h : m ≤ n) : m.log2 ≤ n.log2 := by
  rcases Nat.eq_zero_or_pos m with rfl | hm
  · simp
  · exact (Nat.le_log2 (by omega)).mpr (Nat.le_trans (Nat.log2_self_le (by omega)) h)

/-- The rank of what a product is rounded to. The product is counted in units of which the smallest
float has `2 ^ 1074`. -/
def nearest (n : Nat) : Nat :=
  let t := max (n.log2 - 52) 1074
  (t - 1074) * 2 ^ 52 + rounded n t

lemma nearest_zero : nearest 0 = 0 := by
  rw [nearest, rounded_zero]
  rfl

/-- **Rounding keeps the order.** -/
lemma nearest_mono {m n : Nat} (h : m ≤ n) : nearest m ≤ nearest n := by
  have hlog := log2_mono h
  unfold nearest
  generalize ht : max (m.log2 - 52) 1074 = t
  generalize hu : max (n.log2 - 52) 1074 = u
  dsimp only
  rcases Nat.lt_or_ge t u with hlt | hge
  · have hn : 0 < n := Nat.pos_of_ne_zero fun h0 => by
      rw [h0, Nat.log2_zero] at hu
      omega
    have h₁ : rounded m t ≤ 2 ^ 53 := rounded_le (by omega)
    have h₂ : 2 ^ 52 ≤ rounded n u := le_rounded hn (by omega)
    omega
  · obtain rfl : t = u := by omega
    exact Nat.add_le_add_left (rounded_mono h t) _

/-- What is at least the smallest float is not rounded to zero. -/
lemma nearest_pos {m k : Nat} (hm : 0 < m) (hk : 1074 ≤ k) : 0 < nearest (m * 2 ^ k) := by
  obtain ⟨c, hc⟩ : ∃ c, c = 1074 := ⟨_, rfl⟩
  have hmax : max (c - 52) 1074 = c := by omega
  have hexact : rounded (2 ^ c) c = 1 := by simpa using rounded_exact 1 c
  have hone : 1 ≤ nearest (2 ^ c) := by
    rw [nearest, Nat.log2_two_pow, hmax, hexact]
    exact Nat.le_add_left 1 _
  have hle : 2 ^ c ≤ m * 2 ^ k :=
    (Nat.pow_le_pow_right Nat.two_pos (hc ▸ hk)).trans (Nat.le_mul_of_pos_left _ hm)
  exact hone.trans (nearest_mono hle)

lemma toNat_packComponents (s : Sign) (e : BitVec 11) (m : BitVec 52) :
    (packComponents .binary64 s e m).toNat =
      (s.toBitVec.toNat * 2 ^ 11 + e.toNat) * 2 ^ 52 + m.toNat := by
  have h : ∀ {v w : Nat} (x : BitVec v) (y : BitVec w),
      (x ++ y).toNat = x.toNat * 2 ^ w + y.toNat := by
    intro v w x y
    rw [BitVec.toNat_append, ← Nat.shiftLeft_add_eq_or_of_lt y.isLt, Nat.shiftLeft_eq]
  rw [packComponents, h, h]

lemma toNat_pack {m : Nat} {e : Int} (h : 0 < m) (hm : m < 2 ^ 53) (he : -1074 ≤ e)
    (hn : 2 ^ 52 ≤ m ∨ e = -1074) :
    (UnpackedFloat.pack .binary64 (.finite .positive m e h)).toNat =
      min top ((e + 1074).toNat * 2 ^ 52 + m) := by
  have hbias : ((Format.binary64.exponentBias : Nat) : Int) = 1023 := rfl
  have hbits : ((Format.binary64.mantissaBitsWithoutImplicit : Nat) : Int) = 52 := rfl
  have hmant : Format.binary64.mantissaBits = 53 := rfl
  have htop : top = 2047 * 2 ^ 52 := rfl
  have hlog : m.log2 = 52 ↔ 2 ^ 52 ≤ m := by
    rw [← Nat.le_log2 (by omega)]
    have := (Nat.log2_lt (by omega : m ≠ 0)).mpr hm
    omega
  unfold UnpackedFloat.pack
  dsimp only
  rw [hbias, hbits, hmant]
  split
  · next hbig =>
    have hbig : 2 ^ 11 ≤ (e + 1023 + 52).toNat + 1 := hbig
    rw [Nat.min_eq_left (by omega)]
    decide
  · next hbig =>
    have hbig : ¬2 ^ 11 ≤ (e + 1023 + 52).toNat + 1 := hbig
    have hsign : Sign.positive.toBitVec.toNat = 0 := rfl
    split
    · next hfull =>
      have hfull := hlog.mp (Nat.succ.inj hfull)
      have hexp : (BitVec.ofNat 11 (e + 1023 + 52).toNat).toNat = (e + 1023 + 52).toNat % 2 ^ 11 :=
        BitVec.toNat_ofNat _ _
      have hdigits : (BitVec.ofNat 52 m).toNat = m % 2 ^ 52 := BitVec.toNat_ofNat _ _
      have hpacked := toNat_packComponents .positive (BitVec.ofNat 11 (e + 1023 + 52).toNat)
        (BitVec.ofNat 52 m)
      rw [hsign, hexp, hdigits] at hpacked
      rw [hpacked]
      clear hpacked hexp hdigits hsign hlog hbias hbits hmant
      omega
    · next hfull =>
      have hfull := mt hlog.mpr fun h => hfull (congrArg Nat.succ h)
      have hdigits : (BitVec.ofNat 52 m).toNat = m % 2 ^ 52 := BitVec.toNat_ofNat _ _
      have hpacked := toNat_packComponents .positive 0#11 (BitVec.ofNat 52 m)
      rw [hsign, hdigits, BitVec.toNat_zero] at hpacked
      rw [hpacked]
      clear hpacked hdigits hsign hlog hbias hbits hmant
      omega

lemma targetExponent_eq (m : Nat) (e : Int) :
    Format.binary64.targetExponent (totalExponent m e) = max ((m.log2 : Int) + e - 52) (-1074) := by
  have hmant : ((Format.binary64.mantissaBits : Nat) : Int) = 53 := rfl
  have hmin : Format.binary64.minExponent = -1074 := rfl
  rw [Format.targetExponent, totalExponent, hmant, hmin]
  omega

/-- Digits that fit are not shifted. -/
lemma shiftToTarget_fit {m : Nat} {e : Int} (hm : m < 2 ^ 53) (he : -1074 ≤ e) :
    shiftToTargetExponent .binary64 m e .exact = (⟨m, false, false⟩, e) := by
  have hlog : m.log2 ≤ 52 := by
    rcases Nat.eq_zero_or_pos m with rfl | h
    · simp
    · have := (Nat.log2_lt (by omega : m ≠ 0)).mpr hm
      omega
  have h0 : (max ((m.log2 : Int) + e - 52) (-1074) - e).toNat = 0 := by omega
  simp only [shiftToTargetExponent, shiftToExponent, targetExponent_eq, h0]
  simp [ExtendedMantissa.ofMantissaAndAccuracy, HShiftRight.hShiftRight, Nat.repeat]

/-- Digits that rounding has made one too many are shifted once. -/
lemma shiftToTarget_carry {e : Int} (he : -1074 ≤ e) :
    shiftToTargetExponent .binary64 (2 ^ 53) e .exact = (⟨2 ^ 52, false, false⟩, e + 1) := by
  have h1 : (max (((2 ^ 53 : Nat).log2 : Int) + e - 52) (-1074) - e).toNat = 1 := by
    rw [Nat.log2_two_pow]
    omega
  simp only [shiftToTargetExponent, shiftToExponent, targetExponent_eq, h1]
  simp [ExtendedMantissa.ofMantissaAndAccuracy, HShiftRight.hShiftRight, Nat.repeat,
    ExtendedMantissa.shiftRightOne]

lemma log2_mul_pow {m : Nat} (hm : 0 < m) (k : Nat) : (m * 2 ^ k).log2 = m.log2 + k := by
  have hpos : m * 2 ^ k ≠ 0 := Nat.mul_ne_zero (by omega) (Nat.two_pow_pos k).ne'
  have h₁ := Nat.mul_le_mul_right (2 ^ k) (Nat.log2_self_le (by omega : m ≠ 0))
  have h₂ := Nat.mul_lt_mul_of_pos_right (Nat.lt_log2_self (n := m)) (Nat.two_pow_pos k)
  rw [← Nat.pow_add] at h₁ h₂
  exact (Nat.log2_eq_iff hpos).mpr ⟨h₁, by rwa [Nat.add_right_comm]⟩

/-- What becomes of the digits that rounding has left. -/
lemma toNat_pack_settled {r : Nat} {e : Int} (hr : r ≤ 2 ^ 53) (he : -1074 ≤ e)
    (hn : 2 ^ 52 ≤ r ∨ e = -1074) :
    (UnpackedFloat.pack .binary64
      (if h : (shiftToTargetExponent .binary64 r e .exact).1.mantissa = 0 then .zero .positive
      else .finite .positive _ (shiftToTargetExponent .binary64 r e .exact).2
        (Nat.pos_of_ne_zero h))).toNat = min top ((e + 1074).toNat * 2 ^ 52 + r) := by
  generalize hp : shiftToTargetExponent .binary64 r e .exact = p
  rcases Nat.lt_or_eq_of_le hr with hlt | rfl
  · obtain rfl := (shiftToTarget_fit hlt he).symm.trans hp
    by_cases hzero : r = 0
    · obtain rfl : e = -1074 := by omega
      rw [dif_pos hzero, hzero]
      rfl
    · rw [dif_neg hzero]
      exact toNat_pack _ hlt he hn
  · obtain rfl := (shiftToTarget_carry he).symm.trans hp
    have hpos : (2 ^ 52 : Nat) ≠ 0 := (Nat.two_pow_pos 52).ne'
    rw [dif_neg hpos]
    refine (toNat_pack _ (Nat.pow_lt_pow_right (by omega) (by omega)) (by omega)
      (.inl (Nat.le_refl _))).trans (congrArg (min top) ?_)
    omega

/-- **What is rounded has the rank that is nearest.** -/
lemma toNat_pack_round {m k : Nat} {e : Int} (hm : 0 < m) (he : e = (k : Int) - 2148)
    (hbits : 52 ≤ m.log2 ∨ k ≤ 1074) :
    (UnpackedFloat.pack .binary64 (roundWithAccuracy .binary64 .positive m e .exact)).toNat =
      min top (nearest (m * 2 ^ k)) := by
  subst he
  rw [nearest, log2_mul_pow hm]
  obtain ⟨n, hn⟩ : ∃ n, max (m.log2 + k - 52) 1074 = n + k :=
    ⟨max (m.log2 + k - 52) 1074 - k, by omega⟩
  rw [hn]
  have hfirst : shiftToTargetExponent .binary64 m ((k : Int) - 2148) .exact =
      (shifted n ⟨m, false, false⟩, ((n + k : Nat) : Int) - 2148) := by
    have hshift :
        (max ((m.log2 : Int) + (k - 2148) - 52) (-1074) - ((k : Int) - 2148)).toNat = n := by
      omega
    simp only [shiftToTargetExponent, shiftToExponent, targetExponent_eq, hshift]
    exact Prod.ext rfl (by push_cast; omega)
  have hge : 2 ^ 52 ≤ rounded m n ∨ (((n + k : Nat) : Int) - 2148) = -1074 := by
    rcases Nat.lt_or_ge (n + 52) (m.log2 + 1) with h | h
    · exact .inl (le_rounded hm (by omega))
    · exact .inr (by omega)
  have hsettled := toNat_pack_settled (rounded_le (m := m) (n := n) (by omega))
    (by omega : -1074 ≤ ((n + k : Nat) : Int) - 2148) hge
  rw [rounded_scale]
  unfold roundWithAccuracy
  rw [hfirst]
  refine hsettled.trans (congrArg (min top) ?_)
  omega

/-! ### Products and sums -/

/-- Packing the float gives one that is not negative and has rank `n`. -/
def Packed (n : Nat) (u : UnpackedFloat) : Prop :=
  ((UnpackedFloat.pack .binary64 u).toNat ≤ top ∨
      (UnpackedFloat.pack .binary64 u).toNat = 2 ^ 63) ∧
    (UnpackedFloat.pack .binary64 u).toNat % 2 ^ 63 = n

lemma packed_of_eq {u : UnpackedFloat} {n : Nat}
    (h : (UnpackedFloat.pack .binary64 u).toNat = min top n) : Packed (min top n) u := by
  have htop : top = 2047 * 2 ^ 52 := rfl
  refine ⟨.inl (h ▸ Nat.min_le_left _ _), ?_⟩
  rw [h]
  omega

lemma packed_zero (s : Sign) : Packed 0 (.zero s) := by
  cases s
  · exact ⟨.inr rfl, rfl⟩
  · exact ⟨.inl (Nat.zero_le _), rfl⟩

lemma Ranked.packed {n : Nat} {u : UnpackedFloat} (h : Ranked n u) : Packed n u := by
  have htop : top = 2047 * 2 ^ 52 := rfl
  cases h with
  | zero s => exact packed_zero s
  | infinity => exact ⟨.inl (Nat.le_refl _), rfl⟩
  | @finite n m e hpos hn hm he =>
    have hm₁ : m < 2 ^ 53 := by
      rw [hm, mantissa]
      split <;> omega
    have hfull : 2 ^ 52 ≤ m ∨ e = -1074 := by
      rw [hm, he, mantissa, scale]
      split <;> omega
    have h := packed_of_eq (toNat_pack hpos hm₁ (by omega) hfull)
    have hrank : min top ((e + 1074).toNat * 2 ^ 52 + m) = n := by
      rw [hm, he, mantissa, scale]
      split <;> omega
    rwa [hrank] at h

lemma Packed.float {n : Nat} {u : UnpackedFloat} (h : Packed n u) {x : Float}
    (hx : x.toModel = Float.Model.pack u) : 0 ≤ x ∧ rank x = n := by
  have hbits : x.toBits.toBitVec = UnpackedFloat.pack .binary64 u :=
    congrArg (fun m : Float.Model => m.toBits.toBitVec) hx
  rw [Packed, ← hbits] at h
  exact ⟨(unpack_ranked h.1).nonneg, h.2⟩

/-- The number of smallest floats that make up the float with the given bits. -/
def size (n : Nat) : Nat := mantissa n * 2 ^ scale n

lemma size_mono {n n' : Nat} (h : n ≤ n') : size n ≤ size n' := by
  have hs : scale n ≤ scale n' := by
    unfold scale
    omega
  rcases Nat.lt_or_ge (scale n) (scale n') with hlt | hge
  · have hm : mantissa n ≤ 2 ^ 53 := by
      unfold mantissa
      split <;> omega
    have hm' : 2 ^ 52 ≤ mantissa n' := by
      unfold mantissa
      unfold scale at hlt
      split <;> omega
    calc mantissa n * 2 ^ scale n ≤ 2 ^ 53 * 2 ^ scale n := Nat.mul_le_mul_right _ hm
      _ = 2 ^ 52 * 2 ^ (scale n + 1) := by rw [← Nat.pow_add, ← Nat.pow_add]; congr 1; omega
      _ ≤ 2 ^ 52 * 2 ^ scale n' :=
        Nat.mul_le_mul_left _ (Nat.pow_le_pow_right (by omega) hlt)
      _ ≤ mantissa n' * 2 ^ scale n' := Nat.mul_le_mul_right _ hm'
  · have hs : scale n = scale n' := Nat.le_antisymm hs hge
    have hm : mantissa n ≤ mantissa n' := by
      unfold mantissa
      unfold scale at hs
      split <;> split <;> omega
    rw [size, size, hs]
    exact Nat.mul_le_mul_right _ hm

lemma Ranked.mul {n n' : Nat} {u u' : UnpackedFloat} (h : Ranked n u) (h' : Ranked n' u')
    (hn : n < top) (hn' : n' < top) :
    Packed (min top (nearest (size n * size n'))) (u.mul .binary64 u') := by
  have hzero : min top (nearest 0) = 0 := by rw [nearest_zero, Nat.min_zero]
  have hsize : size 0 = 0 := by simp [size, mantissa]
  cases h with
  | infinity => exact absurd hn (Nat.lt_irrefl _)
  | zero s =>
    rw [hsize, Nat.zero_mul, hzero]
    cases h' with
    | infinity => exact absurd hn' (Nat.lt_irrefl _)
    | zero s' => exact packed_zero _
    | finite => exact packed_zero _
  | @finite _ m e hpos _ hm he =>
    cases h' with
    | infinity => exact absurd hn' (Nat.lt_irrefl _)
    | zero s' =>
      rw [hsize, Nat.mul_zero, hzero]
      exact packed_zero _
    | @finite _ m' e' hpos' _ hm' he' =>
      have hbits : 52 ≤ (m * m').log2 ∨ scale n + scale n' ≤ 1074 := by
        by_cases hfull : 2 ^ 52 ≤ m ∨ 2 ^ 52 ≤ m'
        · left
          rw [Nat.le_log2 (Nat.mul_pos hpos hpos').ne']
          rcases hfull with hfull | hfull
          · exact Nat.le_trans hfull (Nat.le_mul_of_pos_right m hpos')
          · exact Nat.le_trans hfull (Nat.le_mul_of_pos_left m' hpos)
        · right
          rw [hm, hm', mantissa, mantissa] at hfull
          rw [scale, scale]
          split_ifs at hfull <;> omega
      have hpow : size n * size n' = m * m' * 2 ^ (scale n + scale n') := by
        rw [Nat.pow_add, hm, hm', size, size]
        ac_rfl
      rw [hpow]
      exact packed_of_eq (toNat_pack_round (Nat.mul_pos hpos hpos') (by omega) hbits)

variable {x y : Float}

/-- **The product of two finite floats is what their sizes' product is rounded to.** -/
lemma mul_float (hx : 0 ≤ x) (hy : 0 ≤ y) (hx' : rank x < top) (hy' : rank y < top) :
    0 ≤ x * y ∧ rank (x * y) = min top (nearest (size (rank x) * size (rank y))) :=
  ((ranked hx).mul (ranked hy) hx' hy').float rfl

lemma packed_normalize {m k : Nat} {e : Int} (hm : 0 < m) (hk : 1074 ≤ k)
    (he : e = (k : Int) - 2148) :
    Packed (min top (nearest (m * 2 ^ k))) (UnpackedFloat.normalize .binary64 m e .positive) := by
  have hgt : compare (m : Int) 0 = .gt := compare_gt_iff_gt.mpr (by omega)
  simp only [UnpackedFloat.normalize, hgt, Int.toNat_natCast, UnpackedFloat.round,
    decreaseExponent, targetExponent_eq]
  obtain ⟨a, b, ha, hb⟩ : ∃ a b : Nat, (e - max ((m.log2 : Int) + e - 52) (-1074)).toNat = a ∧
    k = a + b := ⟨_, k - (e - max ((m.log2 : Int) + e - 52) (-1074)).toNat, rfl, by omega⟩
  have hlog := log2_mul_pow hm a
  have h := toNat_pack_round (Nat.mul_pos hm (Nat.two_pow_pos a)) (k := b) (e := e - a) (by omega)
    (by omega)
  rw [Nat.mul_assoc, ← Nat.pow_add, ← hb] at h
  rw [ha, Nat.shiftLeft_eq]
  exact packed_of_eq h

/-- One, counted in the units of products. -/
def one : Nat := 2 ^ 2148

/-- A whole number becomes the float that it is rounded to. -/
lemma toFloat_float (k : UInt64) :
    0 ≤ k.toFloat ∧ rank k.toFloat = min top (nearest (k.toNat * one)) := by
  refine Packed.float ?_ rfl
  rcases Nat.eq_zero_or_pos k.toNat with h | h
  · have hk : UnpackedFloat.ofUInt64 .binary64 k = .zero .positive := by
      rw [UnpackedFloat.ofUInt64, h]
      rfl
    rw [hk, h, Nat.zero_mul, nearest_zero, Nat.min_zero]
    exact packed_zero _
  · obtain ⟨n, hn⟩ : ∃ n, n = 2148 := ⟨_, rfl⟩
    rw [one, ← hn]
    exact packed_normalize h (by omega) (by omega)

/-- A sum is not negative, and it is zero only if both of its parts are. -/
lemma Ranked.add {n n' : Nat} {u u' : UnpackedFloat} (h : Ranked n u) (h' : Ranked n' u') :
    ∃ k, Packed k (u.add .binary64 u') ∧ (k = 0 → n = 0 ∧ n' = 0) := by
  have hpacked := h.packed
  have hpacked' := h'.packed
  have htop : 0 < top := by decide
  cases h with
  | infinity =>
    refine ⟨top, ?_, fun h0 => absurd h0 htop.ne'⟩
    cases h' <;> exact Ranked.infinity.packed
  | zero s =>
    cases h' with
    | zero s' =>
      refine ⟨0, ?_, fun _ => ⟨rfl, rfl⟩⟩
      cases s <;> cases s' <;> exact packed_zero _
    | infinity => exact ⟨_, hpacked', fun h0 => ⟨rfl, h0⟩⟩
    | finite => exact ⟨_, hpacked', fun h0 => ⟨rfl, h0⟩⟩
  | @finite _ m e hpos hn hm he =>
    cases h' with
    | zero s' => exact ⟨_, hpacked, fun h0 => ⟨h0, rfl⟩⟩
    | infinity => exact ⟨_, hpacked', fun h0 => absurd h0 htop.ne'⟩
    | @finite _ m' e' hpos' hn' hm' he' =>
      have hsum : 0 < m <<< (e - min e e').toNat + m' <<< (e' - min e e').toNat := by
        rw [Nat.shiftLeft_eq]
        exact Nat.add_pos_left (Nat.mul_pos hpos (Nat.two_pow_pos _)) _
      have hk : 1074 ≤ (min e e' + 2148).toNat := by omega
      exact ⟨_, packed_normalize hsum hk (by omega),
        fun h0 => absurd h0 (lt_min htop (nearest_pos hsum hk)).ne'⟩

/-- **A sum of floats that are not negative is not negative.** -/
lemma add_nonneg (hx : 0 ≤ x) (hy : 0 ≤ y) : 0 ≤ x + y := by
  obtain ⟨n, h, -⟩ := (ranked hx).add (ranked hy)
  exact (h.float (x := x + y) rfl).1

lemma rank_add_eq_zero (hx : 0 ≤ x) (hy : 0 ≤ y) (h : rank (x + y) = 0) :
    rank x = 0 ∧ rank y = 0 := by
  obtain ⟨n, hn, hzero⟩ := (ranked hx).add (ranked hy)
  exact hzero ((hn.float (x := x + y) rfl).2.symm.trans h)

lemma Ranked.add_zero {n : Nat} {u : UnpackedFloat} (h : Ranked n u) (s : Sign) :
    Packed n (u.add .binary64 (.zero s)) := by
  have hpacked := h.packed
  cases h with
  | zero s' =>
    cases s <;> cases s' <;> exact packed_zero _
  | infinity => exact hpacked
  | finite => exact hpacked

/-- What is not above zero adds nothing. -/
lemma rank_add_null (hx : 0 ≤ x) (hy : 0 ≤ y) (h : ¬0 < y) : rank (x + y) = rank x := by
  have h0 : rank (0 : Float) = 0 := rfl
  rw [rank_lt_rank (by decide) hy, h0, Nat.pos_iff_ne_zero, not_not] at h
  have hr := ranked hy
  rw [h] at hr
  refine (Packed.float (u := x.toModel.unpack.add .binary64 y.toModel.unpack) ?_ rfl).2
  generalize y.toModel.unpack = u at hr
  cases hr with
  | zero s => exact (ranked hx).add_zero s
  | finite hpos _ hm => exact absurd (hm ▸ hpos) (by decide)

lemma rank_add_zero (hx : 0 ≤ x) : rank (x + 0) = rank x :=
  rank_add_null hx (by decide) (by decide)

lemma ofBits_float {b : UInt64} (h : b.toNat ≤ top) :
    0 ≤ Float.ofBits b ∧ rank (Float.ofBits b) = b.toNat := by
  have hr := (unpack_ranked (b := b.toBitVec) (.inl h)).packed
  have hb : b.toNat % 2 ^ 63 = b.toNat := by
    have htop : top = 2047 * 2 ^ 52 := rfl
    omega
  exact (hb ▸ hr).float rfl

end Floats
