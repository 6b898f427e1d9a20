import Mathlib.Algebra.GroupWithZero.Nat
import ShopTraffic.Proofs.Load.Ticks

/-!
What becomes of tickets. At every tick one ticket for each worker is put into the channel. A worker
that takes a ticket makes all the steps of a batch, also if the load is told to stop meanwhile.

So once all tasks have ended, the steps are those of the tickets that were taken, and what was left
in the channel is no more than the channel holds.
-/

namespace ShopTraffic

namespace Load

/-- A batch that is done: who made it, and how many steps it had. -/
structure Batch where
  worker : Nat
  steps : Nat
  deriving DecidableEq, Repr

def taker (l : Load) : Act → List Nat
  | .move (.take w) => if l.enabled (.take w) then [w] else []
  | _ => []

/-- Who takes the tickets of a run: the first of these takes the ticket that was sent first, the
next one the next ticket. -/
def takers (l : Load) : List Act → List Nat
  | [] => []
  | a :: acts => l.taker a ++ (l.act a).takers acts

lemma takers_append (l : Load) (acts acts' : List Act) :
    l.takers (acts ++ acts') = l.takers acts ++ (l.run acts).takers acts' := by
  induction acts generalizing l with
  | nil => rfl
  | cons a acts ih => rw [List.cons_append, takers, takers, ih, run_cons, List.append_assoc]

def batch (l : Load) : Act → List Batch
  | .move (.conclude w) => if l.enabled (.conclude w) then [⟨w, (l.worker w).made⟩] else []
  | _ => []

def batches (l : Load) : List Act → List Batch
  | [] => []
  | a :: acts => l.batch a ++ (l.act a).batches acts

/-- The books agree: every ticket that was sent is in the channel or was taken, and whoever took one
is at work on it or has made all its steps. -/
structure Dealt (p : Plan) (l : Load) (taken : List Nat) (done : List Batch) : Prop where
  plan : l.plan = p
  channel : taken.length + l.tickets = l.stats.tickets
  room : l.tickets ≤ p.workers
  whole : ∀ w, (l.worker w).inBatch = true → (l.worker w).made + (l.worker w).rest = p.batch
  full : ∀ b ∈ done, b.steps = p.batch
  shared : ∀ w, taken.count w = (done.map (·.worker)).count w + (l.worker w).inBatch.toNat
  steps : l.stats.steps = (done.map (·.steps)).sum
  emitted : l.stats.emitted ≤ l.stats.steps + (l.workers.toList.map Worker.made).sum

variable {p : Plan} {l l' : Load} {taken taken' : List Nat} {done done' : List Batch} {w : Nat}
  {y : Worker}

/-! ### Moves of the ticker -/

/-- Nothing is done to the workers or to the tickets that they have taken. -/
lemma Dealt.aside (h : Dealt p l taken done) (hp : l'.plan = l.plan) (hw : l'.workers = l.workers)
    (hs : l'.stats.steps = l.stats.steps ∧ l'.stats.emitted = l.stats.emitted)
    (hc : taken.length + l'.tickets = l'.stats.tickets) (hr : l'.tickets ≤ p.workers) :
    Dealt p l' taken done := by
  have hworker : l'.worker = l.worker := funext fun w => by rw [worker, worker, hw]
  exact
    { plan := hp.trans h.plan
      channel := hc
      room := hr
      whole := by rw [hworker]; exact h.whole
      full := h.full
      shared := by rw [hworker]; exact h.shared
      steps := hs.1.trans h.steps
      emitted := by rw [hs.1, hs.2, hw]; exact h.emitted }

lemma Dealt.dispatch (h : Dealt p l taken done) (left : Nat) (next : Instant)
    (hr : l.tickets < l.plan.workers) : Dealt p (l.onDispatch left next) taken done := by
  rw [h.plan] at hr
  refine h.aside rfl rfl ⟨rfl, rfl⟩ ?_ hr
  rw [onDispatch, ← Nat.add_assoc, h.channel]

/-! ### Moves of a worker -/

lemma worker_of_set (hx : l.worker w ≠ .ended) (hw : l'.workers = l.workers.set! w y) :
    l'.worker w = y ∧ ∀ v, v ≠ w → l'.worker v = l.worker v := by
  have hlt := (Array.getElem?_eq_some_iff.mp (getElem?_worker rfl hx)).1
  refine ⟨?_, fun v hv => ?_⟩
  · simp [worker, hw, hlt]
  · simp [worker, hw, Ne.symm hv]

lemma made_of_set (hx : l.worker w ≠ .ended) (y : Worker) :
    ((l.workers.set! w y).toList.map Worker.made).sum + (l.worker w).made =
      (l.workers.toList.map Worker.made).sum + y.made :=
  sum_map_set (getElem?_worker rfl hx) y

/-- What has to be seen to when a worker has changed: the books agree if they agree for that
worker. -/
lemma Dealt.set (h : Dealt p l taken done) (hx : l.worker w ≠ .ended)
    (hw : l'.workers = l.workers.set! w y) (hp : l'.plan = l.plan)
    (hc : taken'.length + l'.tickets = l'.stats.tickets) (hr : l'.tickets ≤ p.workers)
    (hy : y.inBatch = true → y.made + y.rest = p.batch) (hf : ∀ b ∈ done', b.steps = p.batch)
    (hsh : taken'.count w = (done'.map (·.worker)).count w + y.inBatch.toNat)
    (ho : ∀ v, v ≠ w → taken'.count v = taken.count v ∧
      (done'.map (·.worker)).count v = (done.map (·.worker)).count v)
    (hst : l'.stats.steps = (done'.map (·.steps)).sum)
    (he : l'.stats.emitted ≤ l'.stats.steps + (l'.workers.toList.map Worker.made).sum) :
    Dealt p l' taken' done' := by
  obtain ⟨hself, hne⟩ := worker_of_set hx hw
  exact
    { plan := hp.trans h.plan
      channel := hc
      room := hr
      whole := fun v hv => by
        by_cases e : v = w
        · rw [e, hself] at hv ⊢
          exact hy hv
        · rw [hne v e] at hv ⊢
          exact h.whole v hv
      full := hf
      shared := fun v => by
        by_cases e : v = w
        · rw [e, hself, hsh]
        · rw [hne v e, (ho v e).1, (ho v e).2, h.shared v]
      steps := hst
      emitted := he }

/-- A worker that takes a ticket begins a batch. -/
lemma Dealt.take (h : Dealt p l taken done) (hi : l.worker w = .idle) (ht : 0 < l.tickets) :
    Dealt p ({ l with tickets := l.tickets - 1 }.setWorker w (.running l.plan.batch 0))
      (taken ++ [w]) done := by
  have hx : l.worker w ≠ .ended := by rw [hi]; exact Worker.noConfusion
  have hc := h.channel
  have hr := h.room
  have hm := made_of_set hx (.running l.plan.batch 0)
  have hsh := h.shared w
  rw [hi] at hm hsh
  refine h.set hx rfl rfl ?_ ?_ (fun _ => ?_) h.full ?_ (fun v hv => ⟨?_, rfl⟩)
    h.steps ?_
  · simp only [setWorker, List.length_append, List.length_singleton]
    omega
  · simp only [setWorker]
    omega
  · rw [h.plan]
    exact Nat.zero_add _
  · rw [List.count_append, hsh, List.count_singleton_self]
    rfl
  · rw [List.count_append, List.count_singleton, beq_eq_false_iff_ne.mpr (Ne.symm hv)]
    rfl
  · exact h.emitted.trans (Nat.add_le_add_left (Nat.le_of_eq hm.symm) _)

/-- A worker goes on with its batch, and loses no step of it while the queue is open. -/
lemma Dealt.work (h : Dealt p l taken done) {sent : Nat} (hw : l.Works (l.worker w) y sent)
    (hq : l.sim.output.closed = false) (sim : Simulation) (senders : List Nat) :
    Dealt p ({ l with
      sim, senders, stats := { l.stats with emitted := l.stats.emitted + sent } }.setWorker w y)
      taken done := by
  have hx : l.worker w ≠ .ended := by
    intro e
    have hb := hw.before
    rw [e] at hb
    cases hb
  have hm := made_of_set hx y
  have he := h.emitted
  have hsent := hw.sent
  refine h.set hx rfl rfl h.channel h.room (fun _ => ?_) h.full ?_
    (fun v _ => ⟨rfl, rfl⟩) h.steps ?_
  · rw [hw.whole hq]
    exact h.whole w hw.before
  · rw [h.shared w, hw.before, hw.after]
  · simp only [setWorker] at hm ⊢
    omega

/-- A worker that is done with a batch has made all its steps. -/
lemma Dealt.conclude (h : Dealt p l taken done) {made : Nat} (hb : l.worker w = .running 0 made) :
    Dealt p (l.onConclude w made) taken (done ++ [⟨w, made⟩]) := by
  have hx : l.worker w ≠ .ended := by rw [hb]; exact Worker.noConfusion
  have hfull : made = p.batch := by
    have := h.whole w (by rw [hb]; rfl)
    rwa [hb] at this
  have hm := made_of_set hx .idle
  have hsh := h.shared w
  have hst := h.steps
  have he := h.emitted
  rw [hb] at hm hsh
  refine h.set hx rfl rfl h.channel h.room nofun (fun b hm => ?_) ?_
    (fun v hv => ⟨rfl, ?_⟩) ?_ ?_
  · rcases List.mem_append.mp hm with hm | hm
    · exact h.full b hm
    · rw [List.mem_singleton.mp hm]
      exact hfull
  · rw [hsh, List.map_append, List.count_append, List.map_singleton, List.count_singleton_self]
    rfl
  · rw [List.map_append, List.count_append, List.map_singleton, List.count_singleton,
      beq_eq_false_iff_ne.mpr (Ne.symm hv)]
    rfl
  · rw [List.map_append, List.sum_append, List.map_singleton, List.sum_singleton, ← hst]
    rfl
  · simp only [onConclude, setWorker, Worker.made] at hm ⊢
    omega

lemma Dealt.endWorker (h : Dealt p l taken done) (hi : l.worker w = .idle) (sim : Simulation) :
    Dealt p ({ l with sim }.setWorker w .ended) taken done := by
  have hx : l.worker w ≠ .ended := by rw [hi]; exact Worker.noConfusion
  have hm := made_of_set hx .ended
  have hsh := h.shared w
  rw [hi] at hm hsh
  refine h.set hx rfl rfl h.channel h.room nofun h.full ?_
    (fun v _ => ⟨rfl, rfl⟩) h.steps ?_
  · exact hsh
  · exact h.emitted.trans (Nat.add_le_add_left (Nat.le_of_eq hm.symm) _)

/-! ### Runs -/

lemma Dealt.move (h : Dealt p l taken done) (hq : l.sim.output.closed = false) (m : Move) :
    Dealt p (l.perform m) (taken ++ l.taker (.move m)) (done ++ l.batch (.move m)) := by
  have he := l.perform_effect m
  generalize l.perform m = l' at he ⊢
  cases he with
  | still m hm =>
    have ht : l.taker (.move m) = [] ∧ l.batch (.move m) = [] := by
      rcases hm with hm | ⟨w, rfl⟩
      · cases m <;> simp [taker, batch, hm]
      · exact ⟨rfl, rfl⟩
    rw [ht.1, ht.2, List.append_nil, List.append_nil]
    exact h
  | arm | tick | endTicker =>
    simp only [taker, batch, List.append_nil]
    exact h.aside rfl rfl ⟨rfl, rfl⟩ h.channel h.room
  | dispatch left next _ hr => simpa [taker, batch] using h.dispatch left next hr
  | take w hi ht hen => simpa [taker, batch, hen] using h.take hi ht
  | work m w y sim senders sent hm hw _ =>
    have hd := h.work hw hq sim senders
    rcases hm with rfl | rfl | rfl <;> simpa [taker, batch] using hd
  | conclude w made hb hen => simpa [taker, batch, hen, hb, Worker.made] using h.conclude hb
  | endWorker w sim hi => simpa [taker, batch] using h.endWorker hi sim

lemma Dealt.act (h : Dealt p l taken done) (hq : l.sim.output.closed = false) (a : Act) :
    Dealt p (l.act a) (taken ++ l.taker a) (done ++ l.batch a) := by
  cases a with
  | move m => exact h.move hq m
  | stop =>
    simp only [Load.act, taker, batch, List.append_nil]
    rcases l.stop_cases with e | ⟨sim, e, -⟩ <;> rw [e]
    · exact h
    · exact h.aside rfl rfl ⟨rfl, rfl⟩ h.channel h.room
  | pass | setClock | elsewhere =>
    simp only [Load.act, taker, batch, List.append_nil]
    exact h.aside rfl rfl ⟨rfl, rfl⟩ h.channel h.room

lemma Dealt.run (h : Dealt p l taken done) {acts : List Act} (hq : l.StaysOpen acts) :
    Dealt p (l.run acts) (taken ++ l.takers acts) (done ++ l.batches acts) := by
  induction acts generalizing l taken done with
  | nil => simpa [takers, batches] using h
  | cons a acts ih =>
    rw [run_cons, takers, batches, ← List.append_assoc, ← List.append_assoc]
    exact ih (h.act hq.1 a) (act_stays_open hq)

/-! ### The whole life of a load -/

lemma Starts.dealt {l₀ : Load} {rate : Nat} (h : l₀.Starts l rate p) (ht : l₀.tickets = 0)
    (hs : l₀.stats = {}) : Dealt p l [] [] := by
  have hidle : ∀ w, (l.worker w).inBatch = false := by
    intro w
    unfold worker
    rw [h.workers, Array.getElem?_replicate]
    split <;> rfl
  have hst : l.stats = {} := h.stats.trans hs
  have htk : l.tickets = 0 := h.tickets.trans ht
  refine
    { plan := h.plan
      channel := by simp [hst, htk]
      room := by simp [htk]
      whole := fun w hw => by simp [hidle w] at hw
      full := nofun
      shared := fun w => by simp [hidle w]
      steps := by simp [hst]
      emitted := by simp [hst] }

lemma not_inBatch_of_isOver (h : l.isOver = true) (w : Nat) : (l.worker w).inBatch = false := by
  unfold worker
  cases hw : l.workers[w]? with
  | none => rfl
  | some x =>
    have := Array.all_eq_true_iff_forall_mem.mp (Bool.and_eq_true_iff.mp h).2 x
      (Array.mem_of_getElem? hw)
    cases x <;> first | rfl | cases this

lemma made_of_isOver (h : l.isOver = true) : (l.workers.toList.map Worker.made).sum = 0 := by
  refine List.sum_eq_zero fun n hn => ?_
  obtain ⟨x, hx, rfl⟩ := List.mem_map.mp hn
  have := Array.all_eq_true_iff_forall_mem.mp (Bool.and_eq_true_iff.mp h).2 x
    (Array.mem_toList_iff.mp hx)
  cases x <;> first | rfl | cases this

lemma Dealt.steps_eq (h : Dealt p l taken done) : l.stats.steps = p.batch * done.length := by
  have hall : ∀ n ∈ done.map (·.steps), n = p.batch := by
    intro n hn
    obtain ⟨b, hb, rfl⟩ := List.mem_map.mp hn
    exact h.full b hb
  rw [h.steps, List.eq_replicate_of_mem hall, List.sum_replicate_nat, List.length_map,
    Nat.mul_comm]

/-- When all tasks have ended, every batch for which a ticket was taken is done. -/
lemma Dealt.perm_of_isOver (h : Dealt p l taken done) (ho : l.isOver = true) :
    (done.map (·.worker)).Perm taken := by
  refine List.perm_iff_count.mpr fun w => ?_
  rw [h.shared w, not_inBatch_of_isOver ho w]
  rfl

/-- **Tickets are used once, and all their steps are made.** At any time of any run, at most the
tickets of the last tick have not been sent; every ticket that was sent is in the channel or was
taken by one worker; a batch that is done has all its steps; and a worker has done one batch for
each ticket that it took, but for the one that it is at work on. So when all tasks have ended, also
after the load was told to stop, the steps are those of the tickets that were taken, and no more
tickets are left than the channel holds. -/
theorem run_tickets {sim : Simulation} {wall : Time} {instant tick : Instant}
    {workerCount rate : Nat} {l : Load} {p : Plan}
    (hs : (unstarted sim wall instant tick workerCount).start rate = .ok (l, p)) (acts : List Act)
    (hq : l.StaysOpen acts) :
    let r := l.run acts
    let taken := l.takers acts
    let done := l.batches acts
    (1 ≤ r.stats.ticks → (r.stats.ticks - 1) * p.workers ≤ r.stats.tickets) ∧
    r.stats.tickets ≤ r.stats.ticks * p.workers ∧
    taken.length + r.tickets = r.stats.tickets ∧ r.tickets ≤ p.workers ∧
    (∀ b ∈ done, b.steps = p.batch) ∧
    (∀ w, taken.count w = (done.map (·.worker)).count w + (r.worker w).inBatch.toNat) ∧
    (r.isOver = true →
      (done.map (·.worker)).Perm taken ∧ r.stats.steps = p.batch * taken.length ∧
      r.stats.tickets - taken.length ≤ p.workers ∧
      p.batch * r.stats.tickets - p.workers * p.batch ≤ r.stats.steps ∧
      r.stats.steps ≤ p.batch * r.stats.tickets ∧ r.stats.emitted ≤ r.stats.steps) := by
  intro r taken done
  have hst := start_spec hs
  have h : Dealt p r taken done := (hst.dealt rfl rfl).run hq
  have hpaced : Paced p instant r := (hst.paced rfl).run (Plan.workers_pos hst.made) acts
  obtain ⟨left, hle, hl, -⟩ := hpaced.owed
  refine ⟨fun ht => ?_, by omega, h.channel, h.room, h.full, h.shared, fun ho => ?_⟩
  · have : r.stats.ticks * p.workers = (r.stats.ticks - 1) * p.workers + p.workers := by
      rw [← Nat.succ_mul, Nat.succ_eq_add_one, Nat.sub_add_cancel ht]
    omega
  · have hp := h.perm_of_isOver ho
    have hlen : done.length = taken.length := by rw [← hp.length_eq, List.length_map]
    have hsteps : r.stats.steps = p.batch * taken.length := by rw [h.steps_eq, hlen]
    have hc := h.channel
    have hr := h.room
    have hle' : p.batch * r.stats.tickets ≤ p.batch * taken.length + p.workers * p.batch := by
      rw [← hc, Nat.mul_add, Nat.mul_comm p.workers]
      exact Nat.add_le_add_left (Nat.mul_le_mul_left _ hr) _
    refine ⟨hp, hsteps, by omega, by omega, ?_, ?_⟩
    · rw [hsteps]
      exact Nat.mul_le_mul_left _ (by omega)
    · have he := h.emitted
      rwa [made_of_isOver ho, Nat.add_zero] at he

/-! ### A load that is stopped at work -/

/-- Where the table has no rows, no step makes an event. -/
lemma begin_barren {sim : Simulation} (h : sim.table = ⟨[]⟩) (now : Time) :
    ∃ sim' o, sim.begin now = (sim', .inl o) ∧ sim'.table = ⟨[]⟩ := by
  have hu := sim.begin_undisturbed now
  rcases sim.begin_cases now with ⟨-, hb⟩ | ⟨user, -, ⟨sim₂, -, hb⟩ | ⟨sim₂, e, ha, -⟩⟩
  · rw [hb] at hu
    exact ⟨_, _, hb, hu.table.trans h⟩
  · rw [hb] at hu
    exact ⟨_, _, hb, hu.table.trans h⟩
  · obtain ⟨-, -, s', hm, -⟩ := Simulation.advance_some ha
    obtain ⟨t, ht, -⟩ := hm.taken
    have htab : (sim.drawVisitor.1.obtain user now).1.table = ⟨[]⟩ :=
      (Simulation.obtain_undisturbed _ user now).table.trans h
    rw [htab] at ht
    cases ht

/-- The only worker does what `x` says. It has taken the only ticket, and the load has been told to
stop. -/
def told (x : Worker) (sim : Simulation) (p : Plan) (due : Instant) : Load :=
  { sim, wall := 0, tick := nanosPerSec, workerCount := 1, started := true, stopping := true
    plan := p, ticker := .waiting due, workers := #[x], stats := { ticks := 1, tickets := 1 } }

lemma told_begin {sim : Simulation} (h : sim.table = ⟨[]⟩) (left made : Nat) (p : Plan)
    (due : Instant) :
    ∃ sim', sim'.table = ⟨[]⟩ ∧
      (told (.running (left + 1) made) sim p due).perform (.begin 0) =
        told (.running left (made + 1)) sim' p due := by
  obtain ⟨sim', o, hb, ht⟩ := begin_barren h 0
  refine ⟨sim', ht, ?_⟩
  rcases Simulation.begin_ends (congrArg Prod.snd hb) with rfl | rfl <;>
    simp [perform, enabled, worker, onBegin, hb, stepped, setWorker, told]

lemma told_ends (sim : Simulation) (made : Nat) (p : Plan) (due : Instant) :
    ((told (.running 0 made) sim p due).run
      [.move (.conclude 0), .move .endTicker, .move (.endWorker 0)]).isOver = true := by
  simp [run_cons, act, perform, enabled, worker, onConclude, setWorker, note, isOver, told]

/-- The worker takes a ticket, the load is told to stop, and the worker makes both its steps. -/
def stopActs : List Act :=
  [.move .arm, .move .tick, .move .dispatch, .move (.take 0), .stop, .move (.begin 0),
    .move (.begin 0), .move (.conclude 0), .move .endTicker, .move (.endWorker 0)]

theorem run_tickets_stopped :
    ∃ l p, (unstarted (Simulation.create 1 60000 1 ⟨[]⟩) 0 0 nanosPerSec 1).start 2 = .ok (l, p) ∧
      l.StaysOpen stopActs ∧ (l.run stopActs).isOver = true ∧ l.takers stopActs = [0] ∧
      (l.run stopActs).stats.steps = 2 := by
  obtain ⟨l, p, hs, hb, ho, sim, due, hr, ht, htab⟩ :
      ∃ l p, (unstarted (Simulation.create 1 60000 1 ⟨[]⟩) 0 0 nanosPerSec 1).start 2 = .ok (l, p) ∧
        p.batch = 2 ∧ l.sim.output.closed = false ∧ ∃ sim due,
          l.run (stopActs.take 5) = told (.running 2 0) sim p due ∧
            l.takers (stopActs.take 5) = [0] ∧ sim.table = ⟨[]⟩ :=
    ⟨_, _, rfl, rfl, rfl, _, _, rfl, rfl, rfl⟩
  obtain ⟨sim₁, htab₁, h₁⟩ := told_begin htab 1 0 p due
  obtain ⟨sim₂, -, h₂⟩ := told_begin htab₁ 0 1 p due
  have htaken : l.takers stopActs = [0] := by
    rw [← List.take_append_drop 5 stopActs, takers_append, ht]
    rfl
  have hover : (l.run stopActs).isOver = true := by
    rw [← List.take_append_drop 5 stopActs, run_append, hr]
    simp only [stopActs, List.drop_succ_cons, List.drop_zero, run_cons, act, h₁, h₂]
    exact told_ends sim₂ 2 p due
  have hq : l.StaysOpen stopActs := ⟨ho, by simp [stopActs]⟩
  refine ⟨l, p, hs, hq, hover, htaken, ?_⟩
  obtain ⟨-, -, -, -, -, -, h⟩ := run_tickets hs stopActs hq
  rw [(h hover).2.1, htaken, hb]
  rfl

end Load

end ShopTraffic
