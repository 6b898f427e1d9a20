import ShopTraffic.Proofs.Load.Rate

/-!
The rate of a plan in closed form. The steps of a second are shared out among its ticks, and those
of a tick among the workers; both times the quotient is rounded down, and both times it is at least
one. The two roundings come to a single one: a plan sends out its target rate, rounded down to a
multiple of the least rate, and never less than that. The least rate is one step for each worker at
each tick.

So the least rate tells how far a plan is off its target, on which side of it, and whether the rate
that it reports has been cut down to 64 bits.
-/

namespace ShopTraffic.Plan

/-! ### Rounding -/

section Rounding

variable {least rate n : Nat}

/-- Sharing out twice is sharing out once, also where never less than one is handed out. -/
lemma share_again (rate a b : Nat) :
    max 1 (max 1 (rate / a) / b) = max 1 (rate / (a * b)) := by
  rw [← Nat.div_div_eq_div_mul]
  rcases Nat.eq_zero_or_pos (rate / a) with hnone | hsome
  · -- a single step is not shared out any further
    have hone : 1 / b ≤ 1 := Nat.div_le_self 1 b
    rw [hnone, Nat.zero_div, max_eq_left (Nat.zero_le 1), max_eq_left hone]
  · rw [max_eq_right (a := 1) (b := rate / a) hsome]

/-- A rate that is rounded down to a multiple of `least` is off by less than `least`, and so is one
that is raised to `least`. -/
lemma rounded_near (hl : 0 < least) (hr : 0 < rate) :
    least * max 1 (rate / least) < rate + least ∧ rate < least * max 1 (rate / least) + least := by
  rcases Nat.lt_or_ge rate least with hless | hmore
  · rw [Nat.div_eq_of_lt hless, max_eq_left (Nat.zero_le 1)]
    omega
  · have hone : 1 ≤ rate / least := (Nat.one_le_div_iff hl).mpr hmore
    have hbelow : least * (rate / least) ≤ rate := Nat.mul_div_le rate least
    have habove : rate < least * (rate / least) + least := Nat.lt_mul_div_succ rate hl
    rw [max_eq_right hone]
    omega

/-- Only a rate below `least` is raised. -/
lemma rounded_le_iff (hl : 0 < least) : least * max 1 (rate / least) ≤ rate ↔ least ≤ rate := by
  constructor
  · exact (Nat.le_mul_of_pos_right least (Nat.le_max_left 1 _)).trans
  · intro hmore
    rw [max_eq_right ((Nat.one_le_div_iff hl).mpr hmore)]
    exact Nat.mul_div_le rate least

/-- Rounding down and raising to `least` leave a range only if `least` is not in it. -/
lemma rounded_lt_iff (hl : 0 < least) (hr : rate < n) :
    least * max 1 (rate / least) < n ↔ least < n := by
  constructor
  · exact (Nat.le_mul_of_pos_right least (Nat.le_max_left 1 _)).trans_lt
  · intro hlt
    rcases Nat.lt_or_ge rate least with hless | hmore
    · rwa [Nat.div_eq_of_lt hless, max_eq_left (Nat.zero_le 1), Nat.mul_one]
    · exact ((rounded_le_iff hl).mpr hmore).trans_lt hr

end Rounding

/-! ### Plans -/

/-- One step for each worker at each tick of a second. -/
def leastRate (p : Plan) : Nat := p.ticksPerSecond * p.workers

/-- The steps of a second, whether or not their number fits in 64 bits. -/
def fullRate (p : Plan) : Nat := p.batch * p.workers * p.ticksPerSecond

variable {p : Plan} {rate n : Nat} {tick : Instant}

lemma make?_eq_none : make? rate tick n = none ↔ tickMs tick = 0 := by
  rw [make?]
  split
  · next h => exact iff_of_true rfl h
  · next h => exact iff_of_false nofun h

lemma make?_stepsPerTick (h : make? rate tick n = some p) :
    p.stepsPerTick = max 1 (rate / p.ticksPerSecond) ∧
      p.batch = max 1 (p.stepsPerTick / p.workers) := by
  unfold make? at h
  split at h
  · cases h
  · obtain rfl := Option.some.inj h
    exact ⟨rfl, rfl⟩

lemma leastRate_pos (h : make? rate tick n = some p) : 0 < p.leastRate := by
  refine Nat.mul_pos ?_ (workers_pos h)
  rw [(make?_spec h).2.2.1]
  exact Nat.le_max_left 1 _

/-- **A plan sends out its rate, rounded down to a multiple of the least rate**, or the least rate
if its rate is below it. -/
lemma fullRate_eq (h : make? rate tick n = some p) :
    p.fullRate = p.leastRate * max 1 (rate / p.leastRate) := by
  obtain ⟨-, -, -, hbatch⟩ := make?_spec h
  calc p.fullRate = p.leastRate * p.batch := by rw [fullRate, leastRate]; ring
    _ = p.leastRate * max 1 (rate / p.leastRate) := by rw [hbatch, share_again, ← leastRate]

/-- The batches of a tick are too large together only if there are more workers than steps. -/
lemma batches_le_iff (h : make? rate tick n = some p) :
    p.batch * p.workers ≤ p.stepsPerTick ↔ p.workers ≤ p.stepsPerTick := by
  rw [(make?_stepsPerTick h).2, Nat.mul_comm]
  exact rounded_le_iff (workers_pos h)

/-- The reported rate is cut down only if the least rate does not fit in 64 bits. -/
lemma uncut_iff_leastRate (h : make? rate tick n = some p) (hr : rate < 2 ^ 64) :
    p.Uncut ↔ p.leastRate < 2 ^ 64 := by
  change p.fullRate < 2 ^ 64 ↔ _
  rw [fullRate_eq h]
  exact rounded_lt_iff (leastRate_pos h) hr

lemma effectiveRate_eq_iff : p.effectiveRate = p.fullRate ↔ p.Uncut := by
  refine ⟨fun h => ?_, Nat.mod_eq_of_lt⟩
  rw [Uncut, ← fullRate, ← h]
  exact Nat.mod_lt _ (by decide)

/-- The reported rate is found by two products of 64 bits. The first is in range if the second
is. -/
lemma overflows_iff (h : make? rate tick n = some p) (hr : rate < 2 ^ 64) :
    2 ^ 64 ≤ p.batch * p.workers ∨ 2 ^ 64 ≤ p.fullRate ↔ 2 ^ 64 ≤ p.leastRate := by
  have hticks : 0 < p.ticksPerSecond := Nat.pos_of_mul_pos_right (leastRate_pos h)
  have hfirst : p.batch * p.workers ≤ p.fullRate := Nat.le_mul_of_pos_right _ hticks
  have huncut : p.fullRate < 2 ^ 64 ↔ p.leastRate < 2 ^ 64 := uncut_iff_leastRate h hr
  omega

/-- **What a plan sends out in a second**, for any rate of 64 bits, any tick and any number of
workers. There is no plan exactly if the milliseconds of the tick, which are at least one, are cut
down to zero. Otherwise what is sent out is the rate rounded down to a multiple of the least rate,
and never less than the least rate. So a rate above zero is missed by less than the least rate, and
it is exceeded exactly if it is below the least rate. The batches of a tick exceed its steps exactly
if there are fewer steps than workers. The product that the plan reports leaves 64 bits exactly if
the least rate does; as long as it does not, what is reported is what is sent out. -/
theorem make?_rounds (rate : UInt64) (tick : Instant) (n : Nat) :
    let ms := max 1 (tick / nanosPerMs) % 2 ^ 64
    (make? rate.toNat tick n = none ↔ ms = 0) ∧
    (ms ≠ 0 → ∃ p, make? rate.toNat tick n = some p ∧
      p.ticksPerSecond = max 1 (1000 / ms) ∧ p.workers = max 1 n ∧
      p.fullRate = p.leastRate * max 1 (rate.toNat / p.leastRate) ∧
      (1 ≤ rate.toNat → p.fullRate < rate.toNat + p.leastRate ∧
        rate.toNat < p.fullRate + p.leastRate) ∧
      (p.fullRate ≤ rate.toNat ↔ p.leastRate ≤ rate.toNat) ∧
      (p.batch * p.workers ≤ p.stepsPerTick ↔ p.workers ≤ p.stepsPerTick) ∧
      (2 ^ 64 ≤ p.batch * p.workers ∨ 2 ^ 64 ≤ p.fullRate ↔ 2 ^ 64 ≤ p.leastRate) ∧
      (p.effectiveRate = p.fullRate ↔ p.leastRate < 2 ^ 64)) := by
  intro ms
  refine ⟨make?_eq_none, fun hms => ?_⟩
  obtain ⟨p, h⟩ : ∃ p, make? rate.toNat tick n = some p :=
    Option.ne_none_iff_exists'.mp (mt make?_eq_none.mp hms)
  obtain ⟨-, hcrew, hticks, -⟩ := make?_spec h
  have hleast := leastRate_pos h
  have hfull := fullRate_eq h
  refine ⟨p, h, hticks, hcrew, hfull, fun hr => ?_, ?_, batches_le_iff h,
    overflows_iff h rate.toNat_lt, ?_⟩
  · rw [hfull]
    exact rounded_near hleast hr
  · rw [hfull]
    exact rounded_le_iff hleast
  · exact effectiveRate_eq_iff.trans (uncut_iff_leastRate h rate.toNat_lt)

end ShopTraffic.Plan
