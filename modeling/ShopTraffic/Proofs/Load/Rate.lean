import Mathlib.Tactic.Ring
import ShopTraffic.Proofs.Load.Ticks

/-!
The rate of a load. A plan reports a rate, which it finds from whole ticks in a second; the timer
does not wait for a whole number of ticks in a second. So the reported rate is met exactly if the
tick divides the second, and otherwise more is sent out than is reported, but less than twice that.
-/

namespace ShopTraffic

namespace Plan

def volume (p : Plan) : Nat := p.workers * p.batch

/-- The steps that have been sent out at a time, if there is a tick at once and none is late. -/
def dispatched (p : Plan) (t : Instant) : Nat := (t / p.tick + 1) * p.volume

/-- What is sent out is never more than the reported rate allows, but for the tick at once. -/
def WithinRate (p : Plan) : Prop :=
  ∀ t, p.dispatched t * nanosPerSec ≤ p.effectiveRate * t + p.volume * nanosPerSec

/-- The reported rate is so small that it has not been cut down. -/
def Uncut (p : Plan) : Prop := p.batch * p.workers * p.ticksPerSecond < 2 ^ 64

instance (p : Plan) : Decidable p.Uncut := inferInstanceAs (Decidable (_ < _))

variable {p : Plan} {ms rate n : Nat}

lemma tickMs_mul (hms : 1 ≤ ms) (hmax : ms ≤ 1000) : tickMs (ms * nanosPerMs) = ms := by
  rw [tickMs, Nat.mul_div_cancel _ (by decide), Nat.max_eq_right hms]
  exact Nat.mod_eq_of_lt (by omega)

lemma nanosPerSec_eq : nanosPerSec = 1000 * nanosPerMs := rfl

/-- What follows for a plan whose tick is `ms` milliseconds. -/
structure Paces (p : Plan) (ms : Nat) : Prop where
  tick : p.tick = ms * nanosPerMs
  ticksPerSecond : p.ticksPerSecond = 1000 / ms
  volume : 0 < p.volume

lemma paces_of_make? (hms : 1 ≤ ms) (hmax : ms ≤ 1000)
    (h : make? rate (ms * nanosPerMs) n = some p) : p.Paces ms := by
  obtain ⟨ht, hw, htps, hb⟩ := make?_spec h
  refine ⟨ht, ?_, ?_⟩
  · rw [htps, tickMs_mul hms hmax]
    exact Nat.max_eq_right ((Nat.one_le_div_iff hms).mpr hmax)
  · refine Nat.mul_pos ?_ ?_ <;> simp only [hw, hb] <;> exact Nat.lt_of_lt_of_le Nat.one_pos
      (Nat.le_max_left 1 _)

lemma effectiveRate_le (p : Plan) : p.effectiveRate ≤ p.volume * p.ticksPerSecond := by
  rw [volume, Nat.mul_comm p.workers]
  exact Nat.mod_le _ _

lemma Uncut.effectiveRate (h : p.Uncut) : p.effectiveRate = p.volume * p.ticksPerSecond := by
  rw [volume, Nat.mul_comm p.workers]
  exact Nat.mod_eq_of_lt h

lemma uncut_of_eq (h : p.effectiveRate = p.volume * p.ticksPerSecond) : p.Uncut := by
  rw [volume, Nat.mul_comm p.workers] at h
  rw [Uncut, ← h]
  exact Nat.mod_lt _ (by decide)

/-- A rate that is enough for one tick is enough for all of them. -/
lemma Paces.dispatched_le (h : p.Paces ms) {rate : Nat} (hr : p.volume * 1000 ≤ rate * ms)
    (t : Instant) : p.dispatched t * nanosPerSec ≤ rate * t + p.volume * nanosPerSec := by
  rw [dispatched, Nat.succ_mul, Nat.add_mul]
  refine Nat.add_le_add_right ?_ _
  calc t / p.tick * p.volume * nanosPerSec
      = p.volume * 1000 * (t / p.tick * nanosPerMs) := by rw [nanosPerSec_eq]; ring
    _ ≤ rate * ms * (t / p.tick * nanosPerMs) := Nat.mul_le_mul_right _ hr
    _ = rate * (t / p.tick * p.tick) := by rw [h.tick]; ring
    _ ≤ rate * t := Nat.mul_le_mul_left _ (Nat.div_mul_le_self t p.tick)

/-- The second tick shows already whether the reported rate is enough. -/
lemma Paces.withinRate_iff_volume (h : p.Paces ms) (hms : 1 ≤ ms) :
    p.WithinRate ↔ p.volume * 1000 ≤ p.effectiveRate * ms := by
  refine ⟨fun hw => ?_, h.dispatched_le⟩
  have htick : 0 < p.tick := by
    rw [h.tick]
    exact Nat.mul_pos hms (by decide)
  have hsecond := hw p.tick
  rw [dispatched, Nat.div_self htick, Nat.succ_mul, Nat.one_mul, Nat.add_mul, h.tick,
    nanosPerSec_eq, ← Nat.mul_assoc, ← Nat.mul_assoc] at hsecond
  exact Nat.le_of_mul_le_mul_right (Nat.le_of_add_le_add_right hsecond) (by decide)

lemma Paces.withinRate_iff (h : p.Paces ms) (hms : 1 ≤ ms) :
    p.WithinRate ↔ ms ∣ 1000 ∧ p.Uncut := by
  rw [h.withinRate_iff_volume hms]
  constructor
  · intro hr
    -- both roundings lose something, and nothing may be lost
    have hcut : p.effectiveRate * ms ≤ p.volume * p.ticksPerSecond * ms :=
      Nat.mul_le_mul_right ms p.effectiveRate_le
    have hfloor : p.ticksPerSecond * ms ≤ 1000 := by
      rw [h.ticksPerSecond]
      exact Nat.div_mul_le_self 1000 ms
    have hlost : p.volume * p.ticksPerSecond * ms ≤ p.volume * 1000 := by
      rw [Nat.mul_assoc]
      exact Nat.mul_le_mul_left _ hfloor
    refine ⟨⟨p.ticksPerSecond, ?_⟩, uncut_of_eq ?_⟩
    · refine Nat.eq_of_mul_eq_mul_left h.volume ?_
      rw [Nat.mul_comm ms, ← Nat.mul_assoc]
      omega
    · exact Nat.eq_of_mul_eq_mul_right hms (by omega)
  · rintro ⟨hd, hu⟩
    rw [hu.effectiveRate, h.ticksPerSecond, Nat.mul_assoc, Nat.div_mul_cancel hd]

/-- The floor takes away less than half of the ticks of a second. -/
lemma Paces.volume_le (h : p.Paces ms) (hms : 1 ≤ ms) (hmax : ms ≤ 1000) (hu : p.Uncut) :
    p.volume * 1000 ≤ 2 * p.effectiveRate * ms := by
  have hlt : 1000 < 1000 / ms * ms + ms := Nat.lt_div_mul_add hms
  have hone : 1 * ms ≤ 1000 / ms * ms :=
    Nat.mul_le_mul_right ms ((Nat.one_le_div_iff hms).mpr hmax)
  calc p.volume * 1000 ≤ p.volume * (2 * (1000 / ms * ms)) := Nat.mul_le_mul_left _ (by omega)
    _ = 2 * p.effectiveRate * ms := by rw [hu.effectiveRate, h.ticksPerSecond]; ring

end Plan

namespace Load

variable {p : Plan} {t₀ : Instant} {l : Load}

/-- A ticker that is held up sends less. -/
lemma Paced.sent_le (h : Paced p t₀ l) (htick : 0 < p.tick) :
    l.stats.tickets * p.batch ≤ p.dispatched (l.instant - t₀) := by
  obtain ⟨left, -, hl, -⟩ := h.owed
  have hticks : l.stats.ticks ≤ (l.instant - t₀) / p.tick + 1 := by
    rcases Nat.eq_zero_or_pos l.stats.ticks with h0 | hpos
    · rw [h0]
      exact Nat.zero_le _
    · exact Nat.le_add_of_sub_le
        ((Nat.le_div_iff_mul_le htick).mpr (Nat.le_sub_of_add_le' (h.last hpos)))
  calc l.stats.tickets * p.batch ≤ l.stats.ticks * p.workers * p.batch :=
        Nat.mul_le_mul_right _ (hl ▸ Nat.le_add_right _ left)
    _ ≤ ((l.instant - t₀) / p.tick + 1) * p.workers * p.batch :=
        Nat.mul_le_mul_right _ (Nat.mul_le_mul_right _ hticks)
    _ = p.dispatched (l.instant - t₀) := Nat.mul_assoc _ _ _

/-- A ticker that has sent all tickets of its ticks, and has made no tick too late, has sent what
the plan has for the time. -/
lemma OnTime.sent_eq (ho : OnTime p t₀ l) (h : Paced p t₀ l) {due : Instant}
    (hk : l.ticker = .waiting due) (hi : l.instant < due) :
    l.stats.tickets * p.batch = p.dispatched (l.instant - t₀) := by
  obtain ⟨left, -, hl, howes⟩ := h.owed
  rw [hk] at howes
  obtain rfl : left = 0 := howes
  simp only [OnTime, hk] at ho
  have hlt : l.instant - t₀ < l.stats.ticks * p.tick :=
    Nat.sub_lt_left_of_lt_add h.begun (hi.trans_eq ho.1)
  have hpos : 0 < l.stats.ticks := Nat.pos_of_lt_mul_right hlt
  have hticks : (l.instant - t₀) / p.tick + 1 = l.stats.ticks := by
    have htick : 0 < p.tick := Nat.pos_of_lt_mul_left hlt
    have hle := (Nat.le_div_iff_mul_le htick).mpr (Nat.le_sub_of_add_le' (h.last hpos))
    exact Nat.le_antisymm (Nat.div_lt_of_lt_mul (hlt.trans_eq (Nat.mul_comm _ _)))
      (Nat.le_add_of_sub_le hle)
  rw [Plan.dispatched, hticks, Plan.volume, ← Nat.mul_assoc, ← hl, Nat.add_zero]

/-- **A load keeps to the rate that it reports if and only if its tick divides the second**, for
ticks of at most a second and rates that fit in 64 bits. It never sends out more than a tick at once
and one for each tick that has passed since then, and it sends out just that if the ticker is never
held up; that is always less than twice the reported rate. -/
theorem run_dispatched {sim : Simulation} {wall : Time} {instant : Instant}
    {ms workerCount rate : Nat} (hms : 1 ≤ ms) (hmax : ms ≤ 1000)
    (hs : (unstarted sim wall instant (ms * nanosPerMs) workerCount).start rate = .ok (l, p)) :
    (∀ acts, (l.run acts).stats.tickets * p.batch ≤
      p.dispatched ((l.run acts).instant - instant)) ∧
    (∀ acts due, Along Load.act Punctual l acts → (l.run acts).ticker = .waiting due →
      (l.run acts).instant < due →
      (l.run acts).stats.tickets * p.batch = p.dispatched ((l.run acts).instant - instant)) ∧
    (p.WithinRate ↔ ms ∣ 1000 ∧ p.Uncut) ∧
    (p.Uncut → ∀ t,
      p.dispatched t * nanosPerSec ≤ 2 * p.effectiveRate * t + p.volume * nanosPerSec) := by
  have hst := start_spec hs
  have hpos := Plan.workers_pos hst.made
  have hp := Plan.paces_of_make? hms hmax hst.made
  have hpaced : Paced p instant l := hst.paced rfl
  have hontime : OnTime p instant l := by
    rw [OnTime, hst.ticker]
    exact hst.instant
  refine ⟨fun acts => ?_, fun acts due ha hk hi => ?_, hp.withinRate_iff hms, fun hu => ?_⟩
  · refine (hpaced.run hpos acts).sent_le ?_
    rw [hp.tick]
    exact Nat.mul_pos hms (by decide)
  · exact (hontime.run hpaced hpos ha).sent_eq (hpaced.run hpos acts) hk hi
  · exact hp.dispatched_le (hp.volume_le hms hmax hu)

def secondTick : List Act :=
  [.move .arm, .move .tick, .move .dispatch, .move (.take 0), .pass (600 * nanosPerMs), .move .tick,
    .move .dispatch]

theorem run_dispatched_uneven :
    ∃ l p, (unstarted (Simulation.create 1 60000 1 .standard) 0 0 (600 * nanosPerMs) 2).start 10 =
      .ok (l, p) ∧ ¬ p.WithinRate ∧
      p.dispatched (3 * nanosPerSec) * nanosPerSec ≤
        2 * p.effectiveRate * (3 * nanosPerSec) + p.volume * nanosPerSec := by
  obtain ⟨l, p, hs, hu⟩ : ∃ l p,
      (unstarted (Simulation.create 1 60000 1 .standard) 0 0 (600 * nanosPerMs) 2).start 10 =
        .ok (l, p) ∧ p.Uncut := ⟨_, _, rfl, by decide⟩
  obtain ⟨-, -, hwithin, htwice⟩ :=
    run_dispatched (by decide : 1 ≤ 600) (by decide : 600 ≤ 1000) hs
  exact ⟨l, p, hs, fun h => absurd (hwithin.mp h).1 (by decide), htwice hu _⟩

/-- One step a second is reported; at 600 milliseconds the two ticks have made two steps. -/
theorem run_beyond_rate :
    ∃ l p, (unstarted (Simulation.create 1 60000 1 .standard) 0 0 (600 * nanosPerMs) 1).start 1 =
      .ok (l, p) ∧ Along Load.act Punctual l secondTick ∧ p.effectiveRate = 1 ∧
      (l.run secondTick).instant = 600 * nanosPerMs ∧
      (l.run secondTick).stats.tickets * p.batch = p.dispatched (600 * nanosPerMs) ∧
      p.effectiveRate * (600 * nanosPerMs) + p.volume * nanosPerSec <
        p.dispatched (600 * nanosPerMs) * nanosPerSec := by
  refine ⟨_, _, rfl, ?_, by decide +kernel, by decide +kernel, by decide +kernel, by decide +kernel⟩
  refine ⟨trivial, trivial, trivial, trivial, ?_, trivial, trivial, trivial⟩
  show (_ : Nat) ≤ _
  decide +kernel

end Load

end ShopTraffic
