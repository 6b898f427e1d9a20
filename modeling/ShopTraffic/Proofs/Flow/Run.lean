import Mathlib
import ShopTraffic.Pipeline.Life
import ShopTraffic.Proofs.Flow.Load
import ShopTraffic.Proofs.Flow.Outlets
import ShopTraffic.Proofs.Runs

/-!
Runs of a pipeline. A run is any sequence of acts: whoever owns the pipeline starts it, stops its
load and shuts it down; time passes, and the clock on the wall is set; the sink changes its ways;
and every part makes its moves whenever it can. No order is fixed but that nothing is asked of a
pipeline after its shutdown has been asked for.
-/

namespace ShopTraffic

namespace Load

/-- The workers are where they were, and nothing more has been counted. The queue may be another. -/
structure SameWork (l l' : Load) : Prop where
  table : l'.sim.table = l.sim.table
  metrics : l'.sim.metrics = l.sim.metrics
  stats : l'.stats = l.stats
  instant : l'.instant = l.instant
  started : l'.started = l.started
  workers : l'.workers = l.workers
  rested : l.isOver = true → l'.isOver = true

lemma sameWork_refl (l : Load) : l.SameWork l := ⟨rfl, rfl, rfl, rfl, rfl, rfl, id⟩

lemma SameWork.trans {l l' l'' : Load} (h : l.SameWork l') (h' : l'.SameWork l'') :
    l.SameWork l'' where
  table := h'.table.trans h.table
  metrics := h'.metrics.trans h.metrics
  stats := h'.stats.trans h.stats
  instant := h'.instant.trans h.instant
  started := h'.started.trans h.started
  workers := h'.workers.trans h.workers
  rested hv := h'.rested (h.rested hv)

lemma note_work (l : Load) (n : Notice) : l.SameWork (l.note n) :=
  ⟨rfl, rfl, rfl, rfl, rfl, rfl, id⟩

lemma collect_work (l : Load) : l.SameWork l.collect := by
  unfold collect
  split
  · refine ⟨rfl, rfl, rfl, rfl, rfl, rfl, fun h => ?_⟩
    unfold isOver at h ⊢
    rw [Bool.and_eq_true] at h ⊢
    exact ⟨rfl, h.2⟩
  · exact l.sameWork_refl

lemma collect_output (l : Load) : l.collect.sim.output = l.sim.output := by
  unfold collect
  split <;> rfl

end Load

namespace Pipeline

inductive Act
  | start
  | stop
  | shutdown
  | pass (span : Instant)
  | setClock (wall : Time)
  | turn (sink : Sink)
  | move (m : Move)

def act (p : Pipeline) : Act → Pipeline
  | .start =>
    if p.closing = .unasked then
      match p.start with
      | .ok (p, _) => p
      | .error _ => p
    else p
  | .stop => if p.closing = .unasked then p.stop else p
  | .shutdown => if p.closing = .unasked then p.beginClosing.getD p else p
  | .pass span => { p with load := { p.load with instant := p.load.instant + span } }
  | .setClock wall => { p with load := { p.load with wall } }
  | .turn sink => { p with outlets := { p.outlets with sink } }
  | .move m => p.perform m

def run (p : Pipeline) (acts : List Act) : Pipeline := acts.foldl act p

@[simp] lemma run_nil (p : Pipeline) : p.run [] = p := rfl

@[simp] lemma run_cons (p : Pipeline) (a : Act) (acts : List Act) :
    p.run (a :: acts) = (p.act a).run acts := rfl

lemma run_append (p : Pipeline) (acts acts' : List Act) :
    p.run (acts ++ acts') = (p.run acts).run acts' := List.foldl_append

/-! ### What becomes of events -/

/-- What becomes of events in an act: the load and the sink workers see to them, and what is left
when the queue is closed is dropped. -/
def fates (p : Pipeline) : Act → Account
  | .move (.load m) => p.load.fates m
  | .move (.outlet m) => p.outlets.fates p.queue p.instant m
  | .move .close =>
    match p.closing with
    | .clearing => entry .dropped p.queue.items
    | _ => 0
  | _ => 0

def history (p : Pipeline) : List Act → Account
  | [] => 0
  | a :: acts => p.fates a + (p.act a).history acts

/-! ### What the owner of a pipeline does -/

variable {p p' : Pipeline} {plan : Plan}

/-- The pipeline `p'` has come of `p` by starting it: the workers are there and have done
nothing. -/
structure Starts (p p' : Pipeline) : Prop where
  first : p.load.started = false
  started : p'.load.started = true
  settings : p'.settings = p.settings
  closing : p'.closing = p.closing
  findings : p'.findings = p.findings
  sim : p.load.sim.Undisturbed p'.load.sim
  stats : p'.load.stats = p.load.stats
  instant : p'.instant = p.instant
  workers : ∃ n, p'.load.workers = Array.replicate n .idle
  outlets : p'.outlets = p.outlets.start p.settings.sinkWorkers

lemma start_spec (h : p.start = .ok (p', plan)) : p.Starts p' := by
  unfold start at h
  split at h
  · cases h
  next l plan hl =>
  obtain ⟨rfl, -⟩ := Prod.mk.inj (Except.ok.inj h)
  unfold Load.start at hl
  split at hl
  · cases hl
  split at hl
  · cases hl
  split at hl
  · cases hl
  next hst =>
  split at hl
  · cases hl
  split at hl
  · cases hl
  obtain ⟨rfl, -⟩ := Prod.mk.inj (Except.ok.inj hl)
  unfold Load.launch
  dsimp only
  split <;>
    exact ⟨Bool.not_eq_true _ ▸ hst, rfl, rfl, rfl, rfl, ⟨rfl, rfl, rfl, rfl⟩, rfl, rfl, ⟨_, rfl⟩,
      rfl⟩

/-- The settings are the same, and the workers of the load are where they were. -/
structure Frame (p p' : Pipeline) : Prop where
  settings : p'.settings = p.settings
  load : p.load.SameWork p'.load

lemma Frame.undisturbed (h : p.Frame p') (hq : p'.queue = p.queue) :
    p.load.sim.Undisturbed p'.load.sim where
  table := h.load.table
  output := hq
  events := congrArg (fun m : Metrics => m.counts.events) h.load.metrics
  errors := congrArg (fun m : Metrics => m.counts.errors) h.load.metrics

/-- The pipeline `p'` is `p`, but that its load has been told to stop. -/
structure Stops (p p' : Pipeline) : Prop where
  frame : p.Frame p'
  queue : p'.queue = p.queue
  outlets : p'.outlets = p.outlets
  findings : p'.findings = p.findings

lemma stop_spec (p : Pipeline) : p.Stops p.stop ∧ p.stop.closing = p.closing := by
  unfold stop Load.stop
  split
  · exact ⟨⟨⟨rfl, p.load.sameWork_refl⟩, rfl, rfl, rfl⟩, rfl⟩
  · exact ⟨⟨⟨rfl, rfl, rfl, rfl, rfl, rfl, rfl, id⟩, rfl, rfl, rfl⟩, rfl⟩

lemma act_start_cases (p : Pipeline) :
    p.act .start = p ∨ p.closing = .unasked ∧ p.Starts (p.act .start) := by
  simp only [act]
  split
  · next hc =>
    split
    · next hs => exact .inr ⟨hc, start_spec hs⟩
    · exact .inl rfl
  · exact .inl rfl

lemma act_stop_cases (p : Pipeline) :
    p.act .stop = p ∨ p.Stops (p.act .stop) ∧ (p.act .stop).closing = p.closing := by
  simp only [act]
  split
  · exact .inr p.stop_spec
  · exact .inl rfl

lemma act_shutdown_cases (p : Pipeline) :
    p.act .shutdown = p ∨ p.closing = .unasked ∧ p.Stops (p.act .shutdown) ∧
      ∃ deadline, (p.act .shutdown).closing = .joining deadline := by
  simp only [act]
  split
  · next hc =>
    unfold beginClosing
    split
    · exact .inl rfl
    · obtain ⟨⟨⟨hg, hl⟩, hq, ho, hf⟩, -⟩ := p.stop_spec
      exact .inr ⟨hc, ⟨⟨hg, hl⟩, hq, ho, hf⟩, _, rfl⟩
  · exact .inl rfl

end Pipeline

/-! ### What the moves of the load keep -/

namespace Load

variable {l : Load}

lemma ended_of_isOver (h : l.isOver = true) :
    (l.ticker = .ended ∨ l.ticker = .failed) ∧ ∀ w, l.worker w = .ended := by
  refine ⟨?_, fun w => ?_⟩
  · simp only [isOver, Bool.and_eq_true, Bool.or_eq_true, decide_eq_true_eq] at h
    exact h.1
  · unfold worker
    cases hx : l.workers[w]? with
    | none => rfl
    | some x =>
      have := Array.all_eq_true_iff_forall_mem.mp (Bool.and_eq_true_iff.mp h).2 x
        (Array.mem_of_getElem? hx)
      cases x <;> first | rfl | cases this

lemma not_enabled_of_isOver (h : l.isOver = true) (m : Move) : l.enabled m = false := by
  obtain ⟨ht, hw⟩ := ended_of_isOver h
  cases m <;> rcases ht with ht | ht <;> simp [enabled, ht, hw]

lemma perform_of_isOver (h : l.isOver = true) (m : Move) : l.perform m = l := by
  unfold perform
  rw [not_enabled_of_isOver h]
  rfl

lemma held_of_isOver (h : l.isOver = true) : l.held = 0 := by
  refine holdings_eq_zero fun w x hx => ?_
  have := Array.all_eq_true_iff_forall_mem.mp (Bool.and_eq_true_iff.mp h).2 x
    (Array.mem_of_getElem? hx)
  cases x <;> first | rfl | cases this

def SameCrew (l l' : Load) : Prop := l'.started = l.started ∧ l'.workers.size = l.workers.size

lemma setWorker_crew (l : Load) (w : Nat) (x : Worker) : l.SameCrew (l.setWorker w x) :=
  ⟨rfl, by simp [setWorker]⟩

lemma stepped_crew (l : Load) (w left made : Nat) (o : Outcome) :
    l.SameCrew (l.stepped w left made o) := by
  cases o <;> exact ⟨rfl, by simp [stepped, setWorker]⟩

lemma perform_crew (l : Load) (m : Move) : l.SameCrew (l.perform m) := by
  unfold perform
  split
  · exact ⟨rfl, rfl⟩
  cases m with
  | arm | endTicker => exact ⟨rfl, rfl⟩
  | tick | dispatch =>
    dsimp only
    split <;> exact ⟨rfl, rfl⟩
  | take w => exact setWorker_crew { l with tickets := l.tickets - 1 } w _
  | begin w =>
    dsimp only
    split
    · unfold onBegin
      split
      · next sim o _ => exact stepped_crew { l with sim } w _ _ o
      · next sim p _ => exact setWorker_crew { l with sim } w _
    · exact ⟨rfl, rfl⟩
  | send w =>
    dsimp only
    split
    · unfold onSend
      split
      · next sim o _ => exact stepped_crew { l with sim } w _ _ o
      · next sim _ => exact setWorker_crew { l with sim, senders := l.senders ++ [w] } w _
    · exact ⟨rfl, rfl⟩
  | resume w =>
    dsimp only
    split
    · unfold onResume
      split
      · next sim o _ => exact stepped_crew { l with sim, senders := l.senders.erase w } w _ _ o
      · exact ⟨rfl, rfl⟩
    · exact ⟨rfl, rfl⟩
  | conclude w =>
    dsimp only
    split
    · exact ⟨rfl, by simp [onConclude, setWorker]⟩
    · exact ⟨rfl, rfl⟩
  | endWorker w => exact ⟨rfl, by simp [setWorker, note]⟩

end Load

/-! ### What the moves of sink workers keep -/

namespace Outlets

variable {o : Outlets} {k j : Nat} {x : Outlet}

/-- The same sink with as many workers, of which the idle ones may take events as before, and those
that had come to an end stay so. -/
structure SameCrew (o o' : Outlets) : Prop where
  sink : o'.sink = o.sink
  size : o'.workers.size = o.workers.size
  cancelled : o'.cancelled = o.cancelled
  done : ∀ j, Pipeline.isDone (o.worker j) = true → o'.worker j = o.worker j

lemma crew_refl (o : Outlets) : o.SameCrew o := ⟨rfl, rfl, rfl, fun _ _ => rfl⟩

/-- Only a worker that had not come to an end is changed. -/
lemma crew_of_set {o' : Outlets} (h : Pipeline.isDone (o.worker k) = false) (hs : o'.sink = o.sink)
    (hc : o'.cancelled = o.cancelled) (hw : o'.workers = o.workers.set! k x) : o.SameCrew o' where
  sink := hs
  size := by simp [hw]
  cancelled := hc
  done j hj := by
    have hne : k ≠ j := by
      rintro rfl
      rw [h] at hj
      cases hj
    have := worker_setWorker_ne (o := o) hne x
    unfold worker setWorker at this
    rwa [← hw] at this

lemma perform_crew (o : Outlets) (sim : Simulation) (now : Instant) (m : Move) :
    o.SameCrew (o.perform m sim now).1 := by
  unfold perform
  split
  · exact o.crew_refl
  next hen =>
  rw [Bool.not_eq_true, Bool.not_eq_false'] at hen
  cases m with
  | take k =>
    have h : Pipeline.isDone (o.worker k) = false := by rw [idle_of_take hen]; rfl
    dsimp only
    split
    · exact crew_of_set h rfl rfl rfl
    · exact o.crew_refl
  | answer k =>
    dsimp only
    split
    · next e due result h =>
      have hd : Pipeline.isDone (o.worker k) = false := by rw [h]; rfl
      cases result <;> exact crew_of_set hd rfl rfl rfl
    · exact o.crew_refl
  | finish k =>
    have h : Pipeline.isDone (o.worker k) = false := by rw [idle_of_finish hen]; rfl
    exact crew_of_set h rfl rfl rfl

end Outlets

namespace Pipeline

/-! ### A worker that comes late, and one that comes in time -/

/-- One worker makes one step a second, and the shutdown waits for nothing. -/
def hasty : GeneratorSettings :=
  { targetRate := 1, tickMs := 1000, workers := some 1, initialUsers := 1, queueCapacity := 1,
    sinkWorkers := 1, drainSecs := 0, seed := some 0 }

def ticketActs : List Act :=
  [.start, .move (.load .arm), .move (.load .tick), .move (.load .dispatch),
    .move (.load (.take 0))]

/-- The shutdown gives up on the worker and sees the queue empty, and then the worker sends. -/
def lateActs : List Act :=
  [.shutdown, .move .close, .move .close, .move (.load (.send 0)), .move (.load (.conclude 0)),
    .move (.load .endTicker), .move (.load (.endWorker 0)), .move (.outlet (.finish 0)),
    .move .close, .move .close, .move .close, .move .close, .move .close, .move .armSweeper,
    .move .endSweeper, .move .armReporter, .move .endReporter, .move .close]

/-- The worker sends, and the sink publishes. -/
def publishActs : List Act :=
  [.move (.load (.send 0)), .move (.load (.conclude 0)), .move (.outlet (.take 0)),
    .move (.outlet (.answer 0))]

/-- All tasks of the load have ended before the shutdown begins. -/
def promptActs : List Act :=
  [.stop, .move (.load .endTicker), .move (.load (.endWorker 0)), .shutdown, .move .close,
    .move .close, .move (.outlet (.finish 0)), .move .close, .move .close, .move .close,
    .move .close, .move .close, .move .armSweeper, .move .endSweeper, .move .armReporter,
    .move .endReporter, .move .close]

/-- The worker does what `x` says, and all others wait. -/
def waitingFor (x : Worker) (sim : Simulation) (plan : Plan) (due : Instant) (stats : LoadStats) :
    Pipeline :=
  { settings := hasty
    load :=
      { sim, wall := 0, tick := hasty.tick, workerCount := 1, started := true, plan
        ticker := .waiting due, workers := #[x], stats }
    outlets := { sink := .discard, workers := #[.idle], published := #[0] }
    sweeper := .fresh, reporter := .fresh, uptime := nanosPerSec }

lemma waitingFor_late (sim : Simulation) (e : Event) (plan : Plan) (due : Instant)
    (stats : LoadStats) (hq : sim.output = { capacity := 1 }) (ha : e.action = .searchSubmitted) :
    let q := (waitingFor (.holding 0 0 ⟨"user_1", e⟩) sim plan due stats).run lateActs
    q.closing = .closed ∧ q.findings = { joined := false, drained := true, dropped := 1 } ∧
      q.load.stats.emitted = stats.emitted + 1 := by
  obtain ⟨_, _, _, _, _, _, output, _, _⟩ := sim
  obtain ⟨_, action, _, _, _, _, _, extra⟩ := e
  dsimp only at hq ha
  subst hq ha
  cbv

/-- All wait, and so many events were published. -/
def waiting (published : Nat) (sim : Simulation) (plan : Plan) (due : Instant) (stats : LoadStats) :
    Pipeline :=
  { waitingFor .idle sim plan due stats with
    outlets :=
      { sink := .discard, workers := #[.idle], published := #[published], accepted := published } }

lemma waitingFor_published (sim : Simulation) (e : Event) (plan : Plan) (due : Instant)
    (stats : LoadStats) (hq : sim.output = { capacity := 1 }) (ha : e.action = .searchSubmitted) :
    (waitingFor (.holding 0 0 ⟨"user_1", e⟩) sim plan due stats).run publishActs =
      waiting 1 { sim with metrics := (sim.metrics.steps 1).event .searchSubmitted } plan due
        { stats with emitted := stats.emitted + 1, steps := stats.steps + 1 } := by
  simp [publishActs, act, perform, enabled, waitingFor, waiting, Load.perform, Load.enabled,
    Load.worker, Load.onSend, Simulation.send, hq, Queue.hasRoom, Queue.used, Simulation.finish,
    ha, Action.endsSession, Load.stepped, Load.setWorker, Load.onConclude, Outlets.perform,
    Outlets.enabled, Outlets.worker, Queue.push, Queue.pop, Queue.uncons, Queue.release,
    Outlets.onTake, Outlets.setWorker, Sink.discard, Outlets.onAnswer, queue, instant, wholeMs]

lemma waiting_prompt (n : Nat) (sim : Simulation) (plan : Plan) (due : Instant)
    (stats : LoadStats) (hq : sim.output = { capacity := 1 }) :
    let q := (waiting n sim plan due stats).run promptActs
    q.closing = .closed ∧ q.findings = { joined := true, drained := true, dropped := 0 } ∧
      q.load.stats.emitted = stats.emitted ∧ q.outlets.accepted = n := by
  obtain ⟨_, _, _, _, _, _, output, _, _⟩ := sim
  dsimp only at hq
  subst hq
  cbv

/-- The worker has made its event, which is still to be sent. -/
lemma holding_run : ∃ p acts sim e plan due stats,
    build hasty 0 1 .standard .discard 0 = .ok p ∧ (∀ s, .turn s ∉ acts) ∧
      p.run acts = waitingFor (.holding 0 0 ⟨"user_1", e⟩) sim plan due stats ∧
      sim.output = { capacity := 1 } ∧ e.action = .searchSubmitted ∧ stats.emitted = 0 := by
  obtain ⟨p, hp, sim, plan, due, stats, ht, hq, hstats, hdraw, hreg, hstep⟩ :
      ∃ p, build hasty 0 1 .standard .discard 0 = .ok p ∧ ∃ sim plan due stats,
        p.run ticketActs = waitingFor (.running 1 0) sim plan due stats ∧
          sim.output = { capacity := 1 } ∧ stats.emitted = 0 ∧
          sim.drawVisitor.2 = some "user_1" ∧ sim.registry = { ttl := hasty.ttl } ∧
          ((Session.begin (sim.registry.newId "user_1" 0) "user_1" 0 sim.registry.ttl).step
            sim.table 0 sim.engineSource).1.2.map (·.action) = some .searchSubmitted :=
    ⟨_, rfl, _, _, _, _, rfl, rfl, rfl, by decide +kernel, rfl, by decide +kernel⟩
  obtain ⟨sim', e, s', hb, ha, -, -⟩ := Simulation.begin_new hdraw (by simp [hreg]) hstep
  have hq' : sim'.output = { capacity := 1 } := by
    have := (sim.begin_undisturbed 0).output
    rw [hb] at this
    exact this.trans hq
  have hbegin : (waitingFor (.running 1 0) sim plan due stats).act (.move (.load (.begin 0))) =
      waitingFor (.holding 0 0 ⟨"user_1", e⟩) sim' plan due stats := by
    simp [waitingFor, act, perform, enabled, Load.perform, Load.enabled, Load.worker, Load.onBegin,
      hb, Load.setWorker]
  refine ⟨p, ticketActs ++ [.move (.load (.begin 0))], sim', e, plan, due, stats, hp,
    by simp [ticketActs], ?_, hq', ha, hstats⟩
  rw [run_append, run_cons, ht, hbegin, run_nil]

/-- The only event of a run can be dropped although the queue was seen empty. -/
lemma late_run : ∃ p acts, build hasty 0 1 .standard .discard 0 = .ok p ∧ (∀ s, .turn s ∉ acts) ∧
    (p.run acts).closing = .closed ∧ (p.run acts).findings.drained = true ∧
    (p.run acts).findings.dropped = 1 ∧ (p.run acts).load.stats.emitted = 1 := by
  obtain ⟨p, acts, sim, e, plan, due, stats, hp, hturn, hrun, hq, ha, hstats⟩ := holding_run
  obtain ⟨hclosed, hfound, hsent⟩ := waitingFor_late sim e plan due stats hq ha
  refine ⟨p, acts ++ lateActs, hp, fun s => by simpa [lateActs] using hturn s, ?_⟩
  rw [run_append, hrun, hclosed, hfound, hsent, hstats]
  exact ⟨rfl, rfl, rfl, rfl⟩

/-- The only event of a run can also be published before the shutdown begins. -/
lemma prompt_run : ∃ p acts, build hasty 0 1 .standard .discard 0 = .ok p ∧
    (∀ s, .turn s ∉ acts) ∧ (p.run acts).closing = .closed ∧
    (p.run acts).findings.joined = true ∧ (p.run acts).findings.drained = true ∧
    (p.run acts).load.stats.emitted = 1 ∧ (p.run acts).outlets.accepted = 1 := by
  obtain ⟨p, acts, sim, e, plan, due, stats, hp, hturn, hrun, hq, ha, hstats⟩ := holding_run
  obtain ⟨hclosed, hfound, hkept, haccepted⟩ := waiting_prompt 1
    { sim with metrics := (sim.metrics.steps 1).event .searchSubmitted } plan due
    { stats with emitted := stats.emitted + 1, steps := stats.steps + 1 } hq
  refine ⟨p, acts ++ publishActs ++ promptActs, hp,
    fun s => by simpa [publishActs, promptActs] using hturn s, ?_⟩
  rw [run_append, run_append, hrun, waitingFor_published sim e plan due stats hq ha, hclosed,
    hfound, hkept, haccepted, hstats]
  exact ⟨rfl, rfl, rfl, rfl, rfl⟩

end Pipeline

end ShopTraffic
