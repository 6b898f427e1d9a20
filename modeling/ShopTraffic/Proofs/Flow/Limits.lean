import ShopTraffic.Proofs.Flow.Schedule
import ShopTraffic.Proofs.Load.Shares

/-!
Settings that pass the check and are too large all the same. The check refuses what is zero, and of
what is large only the tick. A time to live and a number of visitors are cut down to the range of
their types where they are used; the slots of the queue, the number of workers, the rate that is
reported and the deadline of the shutdown are not.

So there are four limits of this kind, which are met where a pipeline is built, started, given
its plan and shut down. For each of them it is found here which settings meet it. Nothing that
happens in between changes that: while a pipeline runs its settings stay, and its clock shows the
time that has passed.

Memory is left out. The pool reserves eight bytes for each visitor that is asked for, and from
`2 ^ 60` visitors on these are more bytes than can be reserved on any machine. The initial visitors
can be so many, and so can those of a tick if the target rate is `2 ^ 59` or more. Such settings may
be spared all four limits.
-/

namespace ShopTraffic

namespace GeneratorSettings

variable {g : GeneratorSettings}

/-- All sizes are within their limits, if the clock of the machine shows `clock` when the shutdown
is asked for. -/
structure Fits (g : GeneratorSettings) (processors : Nat) (clock : Instant) : Prop where
  slots : g.queueCapacity ≤ maxSlots
  crew : g.workerCount processors ≤ maxSlots
  rate : g.workerCount processors * (1000 / g.tickMs) < 2 ^ 64
  deadline : clock + g.drainTimeout < Pipeline.lastSecond * nanosPerSec

lemma bounds_of_validate (h : g.validate = .ok ()) :
    g.targetRate ≠ 0 ∧ 1 ≤ g.tickMs ∧ g.tickMs ≤ 1000 := by
  unfold validate at h
  split at h
  · cases h
  split at h
  · cases h
  omega

end GeneratorSettings

namespace Plan

variable {p : Plan} {ms rate n : Nat}

lemma make?_isSome (hms : 1 ≤ ms) (hmax : ms ≤ 1000) (rate n : Nat) :
    (make? rate (ms * nanosPerMs) n).isSome := by
  rw [Option.isSome_iff_ne_none, Ne, make?_eq_none, tickMs_mul hms hmax]
  omega

/-- The reported rate is cut down only if the workers are too many for batches of one step. -/
lemma uncut_iff (h : make? rate (ms * nanosPerMs) n = some p) (hms : 1 ≤ ms) (hmax : ms ≤ 1000)
    (hr : rate < 2 ^ 64) : p.Uncut ↔ p.workers * (1000 / ms) < 2 ^ 64 := by
  rw [uncut_iff_leastRate h hr, leastRate, (paces_of_make? hms hmax h).ticksPerSecond, Nat.mul_comm]

end Plan

namespace Pipeline

variable {p p' : Pipeline} {plan : Plan}

/-! ### The clock of a pipeline -/

def clock (p : Pipeline) : Instant := p.uptime + p.instant

def Act.span : Act → Instant
  | .pass span => span
  | _ => 0

def elapsed (acts : List Act) : Instant := (acts.map Act.span).sum

/-- The settings are the same, and the clock shows `span` more. -/
structure Later (p p' : Pipeline) (span : Instant) : Prop where
  settings : p'.settings = p.settings
  clock : p'.clock = p.clock + span

lemma onClose_uptime (p : Pipeline) : p.onClose.uptime = p.uptime := by
  simp only [onClose, onJoined, onLook, onHalt, onAwaited, onClear, onRejoined, onLeft]
  repeat' split
  all_goals rfl

lemma later_of_frame (h : p.Frame p') (hu : p'.uptime = p.uptime) : p.Later p' 0 :=
  ⟨h.settings, by rw [clock, hu, instant, h.load.instant]; rfl⟩

lemma perform_later (p : Pipeline) (m : Move) : p.Later (p.perform m) 0 := by
  unfold perform
  split
  · exact ⟨rfl, rfl⟩
  next hen =>
  rw [Bool.not_eq_true, Bool.not_eq_false'] at hen
  cases m with
  | close => exact later_of_frame (onClose_spec hen).1 p.onClose_uptime
  | load m => exact ⟨rfl, congrArg (p.uptime + ·) (p.load.perform_instant m)⟩
  | outlet | armSweeper | sweep | endSweeper | armReporter | report | endReporter =>
    exact ⟨rfl, rfl⟩

lemma start_later (h : p.start = .ok (p', plan)) : p.Later p' 0 := by
  have hs := start_spec h
  refine ⟨hs.settings, ?_⟩
  have hu : p'.uptime = p.uptime := by
    unfold start at h
    split at h
    · cases h
    · obtain ⟨rfl, -⟩ := Prod.mk.inj (Except.ok.inj h)
      rfl
  rw [clock, hu, hs.instant]
  rfl

lemma stop_later (p : Pipeline) : p.Later p.stop 0 := later_of_frame p.stop_spec.1.frame rfl

lemma act_later (p : Pipeline) (a : Act) : p.Later (p.act a) a.span := by
  cases a with
  | start =>
    simp only [act]
    split
    · split
      · next hs => exact start_later hs
      · exact ⟨rfl, rfl⟩
    · exact ⟨rfl, rfl⟩
  | stop =>
    simp only [act]
    split
    · exact p.stop_later
    · exact ⟨rfl, rfl⟩
  | shutdown =>
    simp only [act, beginClosing]
    split
    · split
      · exact ⟨rfl, rfl⟩
      · exact ⟨p.stop_later.settings, p.stop_later.clock⟩
    · exact ⟨rfl, rfl⟩
  | pass span => exact ⟨rfl, (Nat.add_assoc _ _ _).symm⟩
  | setClock | turn => exact ⟨rfl, rfl⟩
  | move m => exact p.perform_later m

lemma run_later (p : Pipeline) (acts : List Act) : p.Later (p.run acts) (elapsed acts) := by
  induction acts generalizing p with
  | nil => exact ⟨rfl, rfl⟩
  | cons a acts ih =>
    have ha := p.act_later a
    have hr := ih (p.act a)
    refine ⟨hr.settings.trans ha.settings, ?_⟩
    rw [run_cons, hr.clock, ha.clock, Nat.add_assoc]
    rfl

/-! ### Where a limit is met -/

variable {g : GeneratorSettings} {seed : UInt64} {processors : Nat} {table : Table} {sink : Sink}
  {wall : Time} {uptime : Instant}

lemma build_beyond_iff (hv : g.validate = .ok ()) :
    build g seed processors table sink wall uptime = .error .beyondLimits ↔
      maxSlots < g.queueCapacity := by
  simp only [build, hv]
  split
  · next h => exact ⟨fun _ => h, fun _ => rfl⟩
  · next h => exact ⟨nofun, fun hq => absurd hq h⟩

/-- What a pipeline is built with, as far as its start and its shutdown depend on it. -/
structure Fresh (g : GeneratorSettings) (processors : Nat) (uptime : Instant) (p : Pipeline) :
    Prop where
  settings : p.settings = g
  clock : p.clock = uptime
  tick : p.load.tick = g.tick
  crew : p.load.workerCount = max 1 (g.workerCount processors)
  unstarted : p.load.started = false
  unstopped : p.load.stopping = false

lemma build_fresh (hv : g.validate = .ok ()) (hq : g.queueCapacity ≤ maxSlots) :
    ∃ p, build g seed processors table sink wall uptime = .ok p ∧ Fresh g processors uptime p := by
  simp only [build, hv, if_neg (Nat.not_lt.mpr hq)]
  exact ⟨_, rfl, rfl, rfl, rfl, rfl, rfl, rfl⟩

lemma Fresh.start_cases (hf : Fresh g processors uptime p) (hv : g.validate = .ok ()) :
    maxSlots < g.workerCount processors ∧ p.start = .error .beyondLimits ∨
      g.workerCount processors ≤ maxSlots ∧ ∃ q plan, p.start = .ok (q, plan) ∧
        Plan.make? g.targetRate g.tick (max 1 (g.workerCount processors)) = some plan := by
  obtain ⟨hrate, hms, hmax⟩ := g.bounds_of_validate hv
  have hslots : 1 ≤ maxSlots := by decide
  obtain ⟨plan, hplan⟩ := Option.isSome_iff_exists.mp
    (Plan.make?_isSome hms hmax g.targetRate (max 1 (g.workerCount processors)))
  have hcrew := (Plan.make?_spec hplan).2.1
  have hmake : Plan.make? g.targetRate p.load.tick p.load.workerCount = some plan := by
    rw [hf.tick, hf.crew]
    exact hplan
  rcases Nat.lt_or_ge maxSlots (g.workerCount processors) with hmany | hfew
  · refine .inl ⟨hmany, ?_⟩
    have : plan.workers > maxSlots := by omega
    simp [start, Load.start, hf.settings, hrate, hf.unstopped, hf.unstarted, hmake, this]
  · refine .inr ⟨hfew, ?_⟩
    have : ¬ plan.workers > maxSlots := by omega
    simp only [start, Load.start, hf.settings, hrate, hf.unstopped, hf.unstarted, hmake, this]
    exact ⟨_, plan, rfl, hplan⟩

/-- Asking for the shutdown after some acts meets no limit if the clock can show the deadline. -/
lemma beginClosing_isSome_iff (p : Pipeline) (acts : List Act) :
    (p.run acts).beginClosing.isSome ↔
      p.clock + elapsed acts + p.settings.drainTimeout < lastSecond * nanosPerSec := by
  have h := p.run_later acts
  rw [← h.clock, ← h.settings, beginClosing]
  split
  · next hlate => exact iff_of_false Bool.false_ne_true (Nat.not_lt.mpr hlate)
  · next hin => exact iff_of_true rfl (Nat.not_le.mp hin)

/-- Building a pipeline, starting it and, after some acts, asking for its shutdown meets none of the
four limits: the rate that is reported is not cut down either. Memory is not among them. -/
def Spared (g : GeneratorSettings) (seed : UInt64) (processors : Nat) (table : Table) (sink : Sink)
    (wall : Time) (uptime : Instant) (acts : List Act) : Prop :=
  ∃ p q plan, build g seed processors table sink wall uptime = .ok p ∧
    p.start = .ok (q, plan) ∧ plan.Uncut ∧ (q.run acts).beginClosing.isSome

/-- No workers at all are a single one, of which no limit is in reach. -/
lemma rate_iff (hms : 1 ≤ g.tickMs) (hmax : g.tickMs ≤ 1000) (hr : g.targetRate < 2 ^ 64)
    (h : Plan.make? g.targetRate g.tick (max 1 (g.workerCount processors)) = some plan) :
    plan.Uncut ↔ g.workerCount processors * (1000 / g.tickMs) < 2 ^ 64 := by
  have htps : 1000 / g.tickMs ≤ 1000 := Nat.div_le_self 1000 g.tickMs
  rw [Plan.uncut_iff h hms hmax hr, (Plan.make?_spec h).2.1, max_eq_right (Nat.le_max_left 1 _)]
  rcases Nat.eq_zero_or_pos (g.workerCount processors) with h0 | hpos
  · rw [h0, max_eq_left (Nat.zero_le 1)]
    omega
  · rw [max_eq_right hpos]

/-- **Settings that pass the check are spared all limits if and only if their sizes fit**: the slots
of the queue, the workers, what the workers send out in batches of one step, and the deadline of the
shutdown, whenever that is asked for. The check alone makes sure that a plan can be made. -/
theorem spared_iff_fits (hv : g.validate = .ok ()) (hr : g.targetRate < 2 ^ 64) (acts : List Act) :
    (∀ workers, (Plan.make? g.targetRate g.tick workers).isSome) ∧
      (Spared g seed processors table sink wall uptime acts ↔
        g.Fits processors (uptime + elapsed acts)) := by
  obtain ⟨-, hms, hmax⟩ := g.bounds_of_validate hv
  refine ⟨Plan.make?_isSome hms hmax g.targetRate, ?_⟩
  have hdeadline {p q : Pipeline} {plan : Plan} (hf : Fresh g processors uptime p)
      (hs : p.start = .ok (q, plan)) : (q.run acts).beginClosing.isSome ↔
        uptime + elapsed acts + g.drainTimeout < lastSecond * nanosPerSec := by
    have hq := start_later hs
    rw [beginClosing_isSome_iff, hq.clock, hq.settings, hf.clock, hf.settings, Nat.add_zero]
  constructor
  · rintro ⟨p, q, plan, hp, hs, hu, hc⟩
    have hslots : g.queueCapacity ≤ maxSlots := by
      refine Nat.le_of_not_lt fun hmany => ?_
      cases hp.symm.trans ((build_beyond_iff hv).mpr hmany)
    obtain ⟨p', hp', hf⟩ := build_fresh hv hslots
    obtain rfl : p = p' := Except.ok.inj (hp.symm.trans hp')
    rcases hf.start_cases hv with ⟨-, he⟩ | ⟨hcrew, q', plan', hs', hplan⟩
    · cases hs.symm.trans he
    · obtain ⟨rfl, rfl⟩ := Prod.mk.inj (Except.ok.inj (hs.symm.trans hs'))
      exact ⟨hslots, hcrew, (rate_iff hms hmax hr hplan).mp hu, (hdeadline hf hs).mp hc⟩
  · rintro ⟨hslots, hcrew, hrate, hlate⟩
    obtain ⟨p, hp, hf⟩ := build_fresh hv hslots
    rcases hf.start_cases hv with ⟨hmany, -⟩ | ⟨-, q, plan, hs, hplan⟩
    · exact absurd hcrew (Nat.not_le.mpr hmany)
    · exact ⟨p, q, plan, hp, hs, (rate_iff hms hmax hr hplan).mpr hrate,
        (hdeadline hf hs).mpr hlate⟩

/-- The settings that nobody has changed are spared, on a machine with eight processors that has run
for a year and goes on for another hour. -/
theorem spared_of_default :
    let year := 365 * 24 * 3600 * nanosPerSec
    ({} : GeneratorSettings).validate = .ok () ∧
      Spared {} 0 8 .standard .discard 0 year [.pass (3600 * nanosPerSec)] :=
  ⟨rfl, (spared_iff_fits rfl (by decide) _).2.mpr
    ⟨by decide, by decide, by decide, by decide⟩⟩

/-- The queue has one slot more than any queue can have. -/
def roomy : GeneratorSettings :=
  { queueCapacity := 2 ^ 61, workers := some 1, initialUsers := 1, sinkWorkers := 1 }

/-- The shutdown may take as many seconds as can be written down. -/
def unhurried : GeneratorSettings :=
  { drainSecs := 2 ^ 64 - 1, workers := some 1, initialUsers := 1, sinkWorkers := 1 }

/-- The check lets them pass; the one cannot be built, and the other cannot be shut down. -/
theorem validate_lets_pass :
    roomy.validate = .ok () ∧ build roomy 0 1 .standard .discard 0 = .error .beyondLimits ∧
      unhurried.validate = .ok () ∧
      ∃ p q plan, build unhurried 0 1 .standard .discard 0 = .ok p ∧ p.start = .ok (q, plan) ∧
        q.beginClosing = none :=
  ⟨rfl, rfl, rfl, _, _, _, rfl, rfl, if_pos (by decide)⟩

end Pipeline

end ShopTraffic
