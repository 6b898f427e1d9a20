import ShopTraffic.Proofs.Random.Always
import ShopTraffic.Proofs.Random.Rounding
import ShopTraffic.Random.Weighted

/-!
A weighted choice never draws an entry without weight. The factor is made so that the product with
the largest fraction stays below the total, hence so does every product; and the piece of the
interval that a point lies in belongs to a weight above zero, since adding a weight that is not
above zero leaves a running sum where it is.

There is something to choose from exactly if no weight is negative and one is above zero: a sum of
such weights is rounded to zero only if all of them are zero.
-/

namespace ShopTraffic.Random

open Floats

def fractionOf (word : UInt64) : Float := (word >>> 12).toFloat * Float.ofBits 0x3CB0000000000000

def largest : UInt64 := 0x3FEFFFFFFFFFFFFE

lemma largest_float : 0 ≤ Float.ofBits largest ∧ rank (Float.ofBits largest) = largest.toNat :=
  ofBits_float (by decide)

lemma largest_finite : rank (Float.ofBits largest) < top := by decide +kernel

/-- No fraction is negative, and none is above the largest one. -/
lemma fractionOf_float (word : UInt64) :
    0 ≤ fractionOf word ∧ rank (fractionOf word) ≤ largest.toNat := by
  have hunit := ofBits_float (b := 0x3CB0000000000000) (by decide)
  have hmost : rank (fractionOf (-1)) = largest.toNat := by decide +kernel
  have hword : (word >>> 12).toNat ≤ ((-1 : UInt64) >>> 12).toNat := by
    have h : ((-1 : UInt64) >>> 12).toNat = 2 ^ 52 - 1 := by decide +kernel
    have h' : (word >>> 12).toNat = word.toNat / 2 ^ 12 := by
      rw [UInt64.toNat_shiftRight, Nat.shiftRight_eq_div_pow]
      rfl
    have := word.toNat_lt
    omega
  have hfloat := toFloat_float (word >>> 12)
  have hfull := toFloat_float ((-1 : UInt64) >>> 12)
  have hle : rank (word >>> 12).toFloat ≤ rank ((-1 : UInt64) >>> 12).toFloat := by
    rw [hfloat.2, hfull.2]
    exact min_le_min_left _ (nearest_mono (Nat.mul_le_mul_right _ hword))
  have hlt : rank ((-1 : UInt64) >>> 12).toFloat < top := by decide +kernel
  have hlt' : rank (Float.ofBits 0x3CB0000000000000) < top := by decide +kernel
  have hmul := mul_float hfloat.1 hunit.1 (Nat.lt_of_le_of_lt hle hlt) hlt'
  refine ⟨hmul.1, ?_⟩
  rw [← hmost, fractionOf, fractionOf, hmul.2, (mul_float hfull.1 hunit.1 hlt hlt').2]
  exact min_le_min_left _ (nearest_mono (Nat.mul_le_mul_right _ (size_mono hle)))

lemma fraction_float :
    Draw.Always (fun f => 0 ≤ f ∧ rank f ≤ largest.toNat) Draw.fraction :=
  Draw.always_bind _ fun word => Draw.always_pure (fractionOf_float word)

namespace Weighted

/-- The factor is small enough for every fraction. -/
structure Fits (total factor : Float) : Prop where
  nonneg : 0 ≤ factor
  finite : rank factor < top
  below : 0 < rank total → rank (factor * Float.ofBits largest) < rank total

lemma factorFrom_fits {total : Float} (ht : 0 ≤ total) (bits : UInt64)
    (hb : bits.toNat ≤ rank total) : Fits total (factorFrom total bits) := by
  have htop := (ranked ht).le_top
  induction bits using factorFrom.induct total with
  | case1 =>
    have h0 : factorFrom total 0 = 0 := by rw [factorFrom, dif_pos rfl]
    rw [h0]
    exact ⟨by decide, by decide, fun h => h⟩
  | case2 bits h0 hge ih =>
    rw [factorFrom, dif_neg h0, if_pos hge]
    refine ih (Nat.le_trans ?_ hb)
    have h1 : (1 : UInt64) ≤ bits := by
      have := mt UInt64.toNat_inj.mp h0
      rw [UInt64.toNat_zero] at this
      rw [UInt64.le_iff_toNat_le, UInt64.toNat_one]
      omega
    rw [UInt64.toNat_sub_of_le _ _ h1]
    exact Nat.sub_le _ _
  | case3 bits h0 hlt =>
    rw [factorFrom, dif_neg h0, if_neg hlt]
    have hbits := ofBits_float (Nat.le_trans hb htop)
    -- infinity stays above every total, so that the search never ends there
    have hfinite : rank (Float.ofBits bits) < top := by
      refine Nat.lt_of_le_of_ne (hbits.2 ▸ Nat.le_trans hb htop) fun h => hlt ?_
      obtain rfl : bits = 0x7FF0000000000000 := UInt64.toNat_inj.mp (hbits.2.symm.trans h)
      have hinf : 0 ≤ Float.ofBits 0x7FF0000000000000 * Float.ofBits 0x3FEFFFFFFFFFFFFE ∧
          rank (Float.ofBits 0x7FF0000000000000 * Float.ofBits 0x3FEFFFFFFFFFFFFE) = top := by
        decide +kernel
      exact (rank_le_rank ht hinf.1).mpr (hinf.2 ▸ htop)
    refine ⟨hbits.1, hfinite, fun _ => ?_⟩
    have hmul := mul_float hbits.1 largest_float.1 hfinite largest_finite
    exact Nat.lt_of_not_le (mt (rank_le_rank ht hmul.1).mpr hlt)

def point (s : Weighted) (fraction : Float) : Float := fraction * s.factor + 0

/-- **The point drawn lies between zero and the total.** -/
lemma point_below {s : Weighted} (h : 0 ≤ s.total) (h' : 0 < rank s.total) {f : Float}
    (hf : 0 ≤ f ∧ rank f ≤ largest.toNat) : 0 ≤ s.point f ∧ s.point f < s.total := by
  have hbits : s.total.toBits.toNat ≤ rank s.total := by
    have htop : top = 2047 * 2 ^ 52 := rfl
    have := bits_of_nonneg h
    rw [rank] at h' ⊢
    omega
  have hfits := factorFrom_fits h _ hbits
  have hle : rank f ≤ rank (Float.ofBits largest) := largest_float.2 ▸ hf.2
  have hmul := mul_float hf.1 hfits.nonneg (Nat.lt_of_le_of_lt hle largest_finite) hfits.finite
  have hmost := mul_float hfits.nonneg largest_float.1 hfits.finite largest_finite
  have hpoint : 0 ≤ s.point f := add_nonneg hmul.1 (by decide)
  refine ⟨hpoint, (rank_lt_rank hpoint h).mpr ?_⟩
  rw [point, factor, rank_add_zero hmul.1]
  refine Nat.lt_of_le_of_lt ?_ (hfits.below h')
  rw [hmul.2, hmost.2, Nat.mul_comm (size (rank f))]
  exact min_le_min_left _ (nearest_mono (Nat.mul_le_mul_left _ (size_mono hle)))

variable {ws : List Float} {acc v : Float} {s : Weighted}

/-- A weight is not negative, and the running sums go on from it. -/
lemma sumsFrom_cons {w : Float} (hs : sumsFrom acc (w :: ws) = some s) :
    0 ≤ w ∧ ∃ s', sumsFrom (acc + w) ws = some s' ∧ s = ⟨acc :: s'.bounds, s'.total⟩ := by
  rw [sumsFrom] at hs
  split at hs
  · next hw =>
    obtain ⟨s', hs', rfl⟩ := Option.map_eq_some_iff.mp hs
    exact ⟨hw, s', hs', rfl⟩
  · cases hs

lemma sumsFrom_total (hacc : 0 ≤ acc) (hs : sumsFrom acc ws = some s) : 0 ≤ s.total := by
  induction ws generalizing acc s with
  | nil =>
    obtain rfl := Option.some.inj hs
    exact hacc
  | cons w ws ih =>
    obtain ⟨hw, s', hs', rfl⟩ := sumsFrom_cons hs
    exact ih (s := s') (add_nonneg hacc hw) hs'

/-- A point below the first running sum chooses the first entry. -/
lemma indexAt_below (hs : sumsFrom acc ws = some s) (hv : ¬acc ≤ v) : s.indexAt v = 0 := by
  cases ws with
  | nil =>
    obtain rfl := Option.some.inj hs
    rfl
  | cons w ws =>
    obtain ⟨-, s', -, rfl⟩ := sumsFrom_cons hs
    exact congrArg List.length
      (List.takeWhile_cons_of_neg (p := (· ≤ v)) fun h => hv (of_decide_eq_true h))

/-- The running sums cut the interval below the total into one piece for each weight. A piece that a
point lies in belongs to a weight above zero. -/
lemma weight_above (hacc : 0 ≤ acc) (hs : sumsFrom acc ws = some s) (hv : 0 ≤ v) (hlow : acc ≤ v)
    (hv' : v < s.total) : ∃ i w, s.indexAt v = i + 1 ∧ ws[i]? = some w ∧ 0 < w := by
  induction ws generalizing acc s with
  | nil =>
    obtain rfl := Option.some.inj hs
    rw [rank_le_rank hacc hv] at hlow
    rw [rank_lt_rank hv hacc] at hv'
    omega
  | cons w ws ih =>
    obtain ⟨hw, s', hs', rfl⟩ := sumsFrom_cons hs
    have hsum := add_nonneg hacc hw
    have hindex : indexAt ⟨acc :: s'.bounds, s'.total⟩ v = s'.indexAt v + 1 :=
      congrArg List.length (List.takeWhile_cons_of_pos (p := (· ≤ v)) (decide_eq_true hlow))
    by_cases hnext : acc + w ≤ v
    · obtain ⟨i, w', hi, hw', hpos⟩ := ih hsum hs' hnext hv'
      exact ⟨i + 1, w', by rw [hindex, hi], hw', hpos⟩
    · refine ⟨0, w, by rw [hindex, indexAt_below hs' hnext], rfl, ?_⟩
      by_contra hpos
      rw [rank_le_rank hacc hv] at hlow
      rw [rank_le_rank hsum hv, rank_add_null hacc hw hpos] at hnext
      exact hnext hlow

/-- **What is drawn is an entry with a weight above zero.** -/
lemma draw_positive (hs : ofWeights? ws = some s) :
    Draw.Always (fun i => ∃ w, ws[i]? = some w ∧ 0 < w) s.draw := by
  obtain ⟨hs, htotal⟩ := Option.filter_eq_some_iff.mp hs
  cases ws with
  | nil => cases hs
  | cons w ws =>
    rw [sums] at hs
    split at hs
    · next hw =>
      have hnonneg := sumsFrom_total hw hs
      have hpos : 0 < rank s.total := by
        refine Nat.pos_of_ne_zero fun h => ?_
        rw [(beq_zero hnonneg).mpr h] at htotal
        cases htotal
      refine fraction_float.bind fun f hf => Draw.always_pure ?_
      obtain ⟨hv, hv'⟩ := point_below hnonneg hpos hf
      change ∃ u, (w :: ws)[s.indexAt (s.point f)]? = some u ∧ 0 < u
      by_cases hlow : w ≤ s.point f
      · obtain ⟨i, u, hi, hu, hpos⟩ := weight_above hw hs hv hlow hv'
        exact ⟨u, by rw [hi]; exact hu, hpos⟩
      · refine ⟨w, by rw [indexAt_below hs hlow]; rfl, ?_⟩
        rw [rank_le_rank hw hv] at hlow
        refine (rank_lt_rank (by decide) hw).mpr ?_
        exact Nat.lt_of_le_of_lt (Nat.zero_le _) (Nat.lt_of_not_le hlow)
    · cases hs

/-! ### Rows that nothing is drawn from -/

/-- There are running sums exactly if no weight is negative or no number. -/
lemma sumsFrom_isSome_iff (acc : Float) :
    (∃ s, sumsFrom acc ws = some s) ↔ ∀ w ∈ ws, 0 ≤ w := by
  induction ws generalizing acc with
  | nil => exact iff_of_true ⟨_, rfl⟩ nofun
  | cons w ws ih =>
    rw [sumsFrom, List.forall_mem_cons]
    split
    · next hw =>
      rw [and_iff_right hw, ← ih (acc + w)]
      simp only [Option.map_eq_some_iff]
      exact ⟨fun ⟨_, s, hs, _⟩ => ⟨s, hs⟩, fun ⟨s, hs⟩ => ⟨_, s, hs, rfl⟩⟩
    · next hw => exact iff_of_false nofun fun h => hw h.1

/-- Only weights of zero add up to zero. -/
lemma sumsFrom_total_zero (hacc : 0 ≤ acc) (hs : sumsFrom acc ws = some s)
    (h : rank s.total = 0) : rank acc = 0 ∧ ∀ w ∈ ws, rank w = 0 := by
  induction ws generalizing acc s with
  | nil =>
    obtain rfl := Option.some.inj hs
    exact ⟨h, nofun⟩
  | cons w ws ih =>
    obtain ⟨hw, s', hs', rfl⟩ := sumsFrom_cons hs
    obtain ⟨hsum, hrest⟩ := ih (s := s') (add_nonneg hacc hw) hs' h
    obtain ⟨hzero, hzero'⟩ := rank_add_eq_zero hacc hw hsum
    exact ⟨hzero, List.forall_mem_cons.mpr ⟨hzero', hrest⟩⟩

/-- **When there is a choice**: no weight is negative or no number, and one is above zero. -/
lemma ofWeights?_isSome_iff :
    (∃ s, ofWeights? ws = some s) ↔ (∀ w ∈ ws, 0 ≤ w) ∧ ∃ w ∈ ws, 0 < w := by
  have h0 : (0 : Float) ≤ 0 := by decide
  have hr0 : rank (0 : Float) = 0 := rfl
  constructor
  · rintro ⟨s, hs⟩
    obtain ⟨i, hi, hpos⟩ := draw_positive hs default
    refine ⟨?_, i, List.mem_of_getElem? hi, hpos⟩
    obtain ⟨hsums, -⟩ := Option.filter_eq_some_iff.mp hs
    cases ws with
    | nil => nofun
    | cons w ws =>
      rw [sums] at hsums
      split at hsums
      · next hw => exact List.forall_mem_cons.mpr ⟨hw, (sumsFrom_isSome_iff w).mp ⟨s, hsums⟩⟩
      · cases hsums
  · rintro ⟨hall, w₀, hmem, hpos⟩
    cases ws with
    | nil => cases hmem
    | cons w ws =>
      obtain ⟨hw, hws⟩ := List.forall_mem_cons.mp hall
      obtain ⟨s, hs⟩ := (sumsFrom_isSome_iff w).mpr hws
      refine ⟨s, Option.filter_eq_some_iff.mpr ⟨by rw [sums, if_pos hw, hs], ?_⟩⟩
      rw [Bool.not_eq_true', Bool.eq_false_iff, Ne, beq_zero (sumsFrom_total hw hs)]
      intro hzero
      obtain ⟨hfirst, hrest⟩ := sumsFrom_total_zero hw hs hzero
      rw [rank_lt_rank h0 (hall w₀ hmem), hr0] at hpos
      have hnone : ∀ u ∈ w :: ws, rank u = 0 := List.forall_mem_cons.mpr ⟨hfirst, hrest⟩
      exact hpos.ne' (hnone w₀ hmem)

end Weighted

end ShopTraffic.Random
