import ShopTraffic.Proofs.Flow.Load

/-!
Runs of a load. The ticker and the workers make their moves whenever they can, the load may be told
to stop at any time, and whatever else goes on in the simulation goes on between two moves: events
are taken out of the queue, sessions are swept, time passes.

What one move can do is said once. All that is proved of runs is read off that.
-/

namespace ShopTraffic

namespace Worker

def inBatch : Worker → Bool
  | running _ _ | holding _ _ _ | waiting _ _ _ => true
  | idle | ended => false

def made : Worker → Nat
  | running _ made | holding _ made _ | waiting _ made _ => made
  | idle | ended => 0

/-- The steps of its batch that a worker has still to end; it ends a step by sending its event. -/
def rest : Worker → Nat
  | running left _ => left
  | holding left _ _ | waiting left _ _ => left + 1
  | idle | ended => 0

end Worker

namespace Plan

lemma make?_spec {rate : Nat} {tick : Instant} {n : Nat} {p : Plan}
    (h : make? rate tick n = some p) :
    p.tick = tick ∧ p.workers = max 1 n ∧ p.ticksPerSecond = max 1 (1000 / tickMs tick) ∧
      p.batch = max 1 (max 1 (rate / p.ticksPerSecond) / p.workers) := by
  unfold make? at h
  split at h
  · cases h
  · obtain rfl := Option.some.inj h
    exact ⟨rfl, rfl, rfl, rfl⟩

lemma workers_pos {rate : Nat} {tick : Instant} {n : Nat} {p : Plan}
    (h : make? rate tick n = some p) : 0 < p.workers := by
  rw [(make?_spec h).2.1]
  exact Nat.lt_of_lt_of_le Nat.one_pos (Nat.le_max_left 1 n)

end Plan

namespace Load

inductive Act
  | stop
  | pass (span : Instant)
  | setClock (wall : Time)
  /-- Something happens to the simulation that is no doing of the load. -/
  | elsewhere (sim : Simulation)
  | move (m : Move)

def act (l : Load) : Act → Load
  | .stop => l.stop
  | .pass span => { l with instant := l.instant + span }
  | .setClock wall => { l with wall }
  | .elsewhere sim => { l with sim }
  | .move m => l.perform m

def run (l : Load) (acts : List Act) : Load := acts.foldl act l

@[simp] lemma run_nil (l : Load) : l.run [] = l := rfl

@[simp] lemma run_cons (l : Load) (a : Act) (acts : List Act) :
    l.run (a :: acts) = (l.act a).run acts := rfl

lemma run_append (l : Load) (acts acts' : List Act) :
    l.run (acts ++ acts') = (l.run acts).run acts' := List.foldl_append

/-- The queue is open, and nothing that happens elsewhere closes it. -/
def StaysOpen (l : Load) (acts : List Act) : Prop :=
  l.sim.output.closed = false ∧ ∀ sim, .elsewhere sim ∈ acts → sim.output.closed = false

/-! ### What one move does -/

/-- Between the worker's states `x` and `y` some steps of its batch have ended, and `sent` events
were sent. Only a closed queue makes a worker drop the rest of its batch. -/
structure Works (l : Load) (x y : Worker) (sent : Nat) : Prop where
  before : x.inBatch = true
  after : y.inBatch = true
  sent : x.made + sent ≤ y.made
  whole : l.sim.output.closed = false → y.made + y.rest = x.made + x.rest

/-- What a move can do: nothing, or the one thing that it is there for. -/
inductive Effect (l : Load) : Move → Load → Prop
  | still (m : Move) (h : l.enabled m = false ∨ ∃ w, m = .resume w) : Effect l m l
  | arm (x : Ticker) (h : l.ticker = .fresh) (hx : x = .failed ∨ x = .waiting l.instant) :
      Effect l .arm { l with ticker := x }
  | tick (due : Instant) (h : l.ticker = .waiting due) (hd : wholeMs due ≤ l.instant) :
      Effect l .tick (l.onTick due)
  | dispatch (left : Nat) (next : Instant) (h : l.ticker = .dispatching left next)
      (hr : l.tickets < l.plan.workers) : Effect l .dispatch (l.onDispatch left next)
  | endTicker (sim : Simulation) : Effect l .endTicker { l with sim, ticker := .ended }
  | take (w : Nat) (h : l.worker w = .idle) (ht : 0 < l.tickets)
      (hen : l.enabled (.take w) = true) :
      Effect l (.take w) ({ l with tickets := l.tickets - 1 }.setWorker w (.running l.plan.batch 0))
  | work (m : Move) (w : Nat) (y : Worker) (sim : Simulation) (senders : List Nat) (sent : Nat)
      (hm : m = .begin w ∨ m = .send w ∨ m = .resume w) (h : l.Works (l.worker w) y sent)
      (ho : sim.output.closed = l.sim.output.closed) :
      Effect l m ({ l with
        sim, senders, stats := { l.stats with emitted := l.stats.emitted + sent } }.setWorker w y)
  | conclude (w made : Nat) (h : l.worker w = .running 0 made)
      (hen : l.enabled (.conclude w) = true) :
      Effect l (.conclude w) (l.onConclude w made)
  | endWorker (w : Nat) (sim : Simulation) (h : l.worker w = .idle) :
      Effect l (.endWorker w) ({ l with sim }.setWorker w .ended)

variable {l : Load} {m : Move} {w left made : Nat} {p : Pending}

/-- A worker that begins a step goes on to the next one or holds an event. -/
lemma onBegin_effect (h : l.worker w = .running (left + 1) made) :
    l.Effect (.begin w) (l.onBegin w left made) := by
  have hc := congrArg Queue.closed (l.sim.begin_undisturbed l.wall).output
  unfold onBegin
  rcases hb : l.sim.begin l.wall with ⟨sim, o | p⟩ <;> rw [hb] at hc
  · have hw : l.Works (l.worker w) (.running left (made + 1)) 0 := by
      rw [h]
      exact ⟨rfl, rfl, Nat.le_succ _, fun _ => by simp only [Worker.made, Worker.rest]; omega⟩
    have he := Effect.work (.begin w) w _ sim l.senders 0 (.inl rfl) hw hc
    rcases Simulation.begin_ends (congrArg Prod.snd hb) with rfl | rfl <;> exact he
  · have hw : l.Works (l.worker w) (.holding left made p) 0 := by
      rw [h]
      exact ⟨rfl, rfl, Nat.le_refl _, fun _ => rfl⟩
    exact .work _ w _ sim l.senders 0 (.inl rfl) hw hc

/-- The queue has taken or refused the event of a worker. -/
lemma stepped_effect {x : Worker} {sim : Simulation} {senders : List Nat} (sent : Bool)
    {o : Outcome} (hmv : m = .begin w ∨ m = .send w ∨ m = .resume w) (hx : l.worker w = x)
    (hb : x.inBatch = true) (hm : x.made = made) (hr : x.rest = left + 1)
    (ho : o = if sent then .emitted else .queueClosed)
    (hs : sent = false → l.sim.output.closed = true)
    (hc : sim.output.closed = l.sim.output.closed) :
    l.Effect m ({ l with sim, senders }.stepped w left made o) := by
  subst hx ho
  cases sent with
  | true =>
    have hw : l.Works (l.worker w) (.running left (made + 1)) 1 :=
      ⟨hb, rfl, by rw [hm]; rfl,
        fun _ => by rw [hm, hr]; simp only [Worker.made, Worker.rest]; omega⟩
    exact .work m w _ sim senders 1 hmv hw hc
  | false =>
    have hw : l.Works (l.worker w) (.running 0 (made + 1)) 0 :=
      ⟨hb, rfl, by rw [hm]; exact Nat.le_succ _,
        fun h => absurd (hs rfl) (by rw [h]; exact Bool.false_ne_true)⟩
    exact .work m w _ sim senders 0 hmv hw hc

lemma onSend_effect (h : l.worker w = .holding left made p) :
    l.Effect (.send w) (l.onSend w left made p) := by
  unfold onSend
  rcases l.sim.send_cases p with ⟨hc, hs⟩ | ⟨hc, hs⟩ | ⟨hc, hs⟩ <;> rw [hs]
  · refine stepped_effect false (.inr (.inl rfl)) h rfl rfl rfl rfl (fun _ => hc) ?_
    rw [Simulation.finish_output]
  · refine stepped_effect true (.inr (.inl rfl)) h rfl rfl rfl rfl nofun ?_
    rw [Simulation.finish_output]
    rfl
  · have hw : l.Works (l.worker w) (.waiting left made p) 0 := by
      rw [h]
      exact ⟨rfl, rfl, Nat.le_refl _, fun _ => rfl⟩
    exact .work _ w _ _ (l.senders ++ [w]) 0 (.inr (.inl rfl)) hw rfl

lemma onResume_effect (h : l.worker w = .waiting left made p) :
    l.Effect (.resume w) (l.onResume w left made p) := by
  unfold onResume
  rcases l.sim.resume_cases p with ⟨hc, hs⟩ | ⟨hc, hs⟩ | hs <;> rw [hs]
  · refine stepped_effect false (.inr (.inr rfl)) h rfl rfl rfl rfl (fun _ => hc) ?_
    rw [Simulation.finish_output]
    exact Queue.abandon_closed _
  · refine stepped_effect true (.inr (.inr rfl)) h rfl rfl rfl rfl nofun ?_
    rw [Simulation.finish_output]
    rfl
  · exact .still _ (.inr ⟨w, rfl⟩)

/-- **What a move does.** -/
lemma perform_effect (l : Load) (m : Move) : l.Effect m (l.perform m) := by
  unfold perform
  split
  · next hen => exact .still m (.inl (by simpa using hen))
  next hen =>
  rw [Bool.not_eq_true, Bool.not_eq_false'] at hen
  cases m with
  | arm =>
    simp only [enabled, Bool.and_eq_true, decide_eq_true_eq] at hen
    refine .arm _ hen.1 ?_
    split
    · exact .inl rfl
    · exact .inr rfl
  | tick =>
    dsimp only
    rcases h : l.ticker with _ | due | _ | _ | _
    case waiting =>
      simp only [enabled, h, Bool.and_eq_true, decide_eq_true_eq] at hen
      exact .tick due h hen.1
    all_goals simp [enabled, h] at hen
  | dispatch =>
    dsimp only
    rcases h : l.ticker with _ | _ | ⟨left, next⟩ | _ | _
    case dispatching =>
      simp only [enabled, h, Bool.and_eq_true, decide_eq_true_eq] at hen
      exact .dispatch left next h hen.1
    all_goals simp [enabled, h] at hen
  | endTicker => exact .endTicker _
  | take w =>
    have h := idle_of_take hen
    have ht := hen
    simp only [enabled, h, Bool.and_eq_true, decide_eq_true_eq] at ht
    exact .take w h ht.1 hen
  | begin w =>
    dsimp only
    rcases h : l.worker w with _ | ⟨_ | left, made⟩ | _ | _ | _
    case running.succ => exact onBegin_effect h
    all_goals simp [enabled, h] at hen
  | send w =>
    dsimp only
    rcases h : l.worker w with _ | _ | ⟨left, made, p⟩ | _ | _
    case holding => exact onSend_effect h
    all_goals simp [enabled, h] at hen
  | resume w =>
    dsimp only
    rcases h : l.worker w with _ | _ | _ | ⟨left, made, p⟩ | _
    case waiting => exact onResume_effect h
    all_goals exact .still _ (.inr ⟨w, rfl⟩)
  | conclude w =>
    dsimp only
    rcases h : l.worker w with _ | ⟨_ | left, made⟩ | _ | _ | _
    case running.zero => exact .conclude w made h hen
    all_goals simp [enabled, h] at hen
  | endWorker w => exact .endWorker w _ (idle_of_endWorker hen)

/-! ### The other acts -/

lemma stop_cases (l : Load) : l.stop = l ∨ ∃ sim, l.stop = { l with sim, stopping := true } ∧
    sim.output = l.sim.output := by
  unfold stop
  split
  · exact .inl rfl
  · exact .inr ⟨_, rfl, rfl⟩

lemma act_stays_open {a : Act} {acts : List Act} (h : l.StaysOpen (a :: acts)) :
    (l.act a).StaysOpen acts := by
  obtain ⟨hq, he⟩ := h
  refine ⟨?_, fun sim hs => he sim (List.mem_cons_of_mem _ hs)⟩
  cases a with
  | move m => exact (l.perform_passes m).closed.trans hq
  | stop =>
    rcases l.stop_cases with e | ⟨sim, e, ho⟩ <;> simp only [Load.act, e]
    · exact hq
    · rw [ho, hq]
  | elsewhere sim => exact he sim (List.mem_cons_self ..)
  | pass | setClock => exact hq

/-! ### How a load starts -/

def unstarted (sim : Simulation) (wall : Time) (instant tick : Instant) (workerCount : Nat) :
    Load :=
  { sim, wall, instant, tick, workerCount }

/-- The load `l` has just been started, and is to follow the plan `p`. -/
structure Starts (l₀ l : Load) (rate : Nat) (p : Plan) : Prop where
  made : Plan.make? rate l₀.tick l₀.workerCount = some p
  plan : l.plan = p
  instant : l.instant = l₀.instant
  tick : l.tick = l₀.tick
  ticker : l.ticker = .fresh
  workers : l.workers = Array.replicate p.workers .idle
  tickets : l.tickets = l₀.tickets
  stats : l.stats = l₀.stats

lemma start_spec {l₀ : Load} {rate : Nat} {p : Plan} (h : l₀.start rate = .ok (l, p)) :
    l₀.Starts l rate p := by
  unfold start at h
  split at h
  · cases h
  split at h
  · cases h
  split at h
  · cases h
  split at h
  · cases h
  next p' hp =>
  split at h
  · cases h
  obtain ⟨rfl, rfl⟩ := Prod.mk.inj (Except.ok.inj h)
  unfold launch
  dsimp only
  split <;> exact ⟨hp, rfl, rfl, rfl, rfl, rfl, rfl, rfl⟩

end Load

end ShopTraffic
