import ShopTraffic.Proofs.Flow.Conservation
import ShopTraffic.Proofs.Load.Ending

/-!
After the shutdown. Once it has come to its end nothing is at work any more: the ticker and the
workers of the load have ended, also if the shutdown gave up on them at first, the sink workers have
ended or were ended by force, and so have the routines in the background. No move is possible from
then on, whatever the sink does, so what the shutdown has reported stays true.

And it gets there. When the shutdown waits for the load the last time the queue is closed, so the
load has a way out and each of its moves leads on.
-/

namespace ShopTraffic

namespace Pipeline

structure AtRest (p : Pipeline) : Prop where
  closed : p.closing = .closed
  load : p.load.isOver = true
  outlets : ∀ k, isDone (p.outlets.worker k) = true
  background : p.sweeper.isOver = true ∧ p.reporter.isOver = true

def Idles (p p' : Pipeline) : Prop :=
  ∃ instant wall sink, p' =
    { p with load := { p.load with instant, wall }, outlets := { p.outlets with sink } }

variable {p p' p'' : Pipeline}

lemma idles_refl (p : Pipeline) : p.Idles p := ⟨p.instant, p.load.wall, p.outlets.sink, rfl⟩

lemma Idles.trans (h : p.Idles p') (h' : p'.Idles p'') : p.Idles p'' := by
  obtain ⟨_, _, _, rfl⟩ := h
  obtain ⟨instant, wall, sink, rfl⟩ := h'
  exact ⟨instant, wall, sink, rfl⟩

lemma Idles.stats (h : p.Idles p') : p'.load.stats = p.load.stats := by
  obtain ⟨_, _, _, rfl⟩ := h
  rfl

lemma Idles.queue (h : p.Idles p') : p'.queue = p.queue := by
  obtain ⟨_, _, _, rfl⟩ := h
  rfl

/-! ### Rest -/

lemma AtRest.idles (h : p.AtRest) (hi : p.Idles p') : p'.AtRest := by
  obtain ⟨_, _, _, rfl⟩ := hi
  exact ⟨h.closed, h.load, h.outlets, h.background⟩

/-- **No move is possible at rest.** -/
lemma AtRest.enabled (h : p.AtRest) (m : Move) : p.enabled m = false := by
  have hover : ∀ {r : Routine}, r.isOver = true → r = .absent ∨ r = .ended := by
    intro r hr
    cases r <;> first | exact .inl rfl | exact .inr rfl | cases hr
  obtain ⟨hs, hr⟩ := h.background
  cases m with
  | close => simp [Pipeline.enabled, canClose, h.closed]
  | load m => exact Load.not_enabled_of_isOver h.load m
  | outlet m =>
    cases m with
    | take k | answer k | finish k =>
      have hd := h.outlets k
      simp only [Pipeline.enabled, Outlets.enabled]
      split <;> simp_all [isDone]
  | armSweeper | sweep | endSweeper =>
    rcases hover hs with e | e <;> simp [Pipeline.enabled, e, isDue, isWaiting]
  | armReporter | report | endReporter =>
    rcases hover hr with e | e <;> simp [Pipeline.enabled, e, isDue, isWaiting]

lemma AtRest.act (h : p.AtRest) (a : Act) : p.Idles (p.act a) := by
  have hc : p.closing ≠ .unasked := by rw [h.closed]; exact Closing.noConfusion
  cases a with
  | start | stop | shutdown => simpa [Pipeline.act, hc] using p.idles_refl
  | pass span => exact ⟨p.instant + span, p.load.wall, p.outlets.sink, rfl⟩
  | setClock wall => exact ⟨p.instant, wall, p.outlets.sink, rfl⟩
  | turn sink => exact ⟨p.instant, p.load.wall, sink, rfl⟩
  | move m =>
    have hm : p.act (.move m) = p := by simp [Pipeline.act, Pipeline.perform, h.enabled m]
    rw [hm]
    exact p.idles_refl

lemma AtRest.run (h : p.AtRest) (acts : List Act) : p.Idles (p.run acts) := by
  induction acts generalizing p with
  | nil => exact p.idles_refl
  | cons a acts ih =>
    have ha := h.act a
    exact ha.trans (ih (h.idles ha))

/-! ### How rest is reached -/

lemma worker_done (h : ∀ k < p.outlets.workers.size, isDone (p.outlets.worker k) = true) (k : Nat) :
    isDone (p.outlets.worker k) = true := by
  by_cases hk : k < p.outlets.workers.size
  · exact h k hk
  · simp [Outlets.worker, Nat.not_lt.mp hk, isDone]

/-- Only the last part of the shutdown closes a pipeline. -/
lemma Closes.last (h : p.Closes p') (hc : p'.closing = .closed) : p.closing = .leaving := by
  cases h with
  | leave was => exact was
  | join _ _ now | tell _ _ now | pause _ _ _ now | look _ _ _ now | turn _ _ now | done _ _ _ now
  | next _ _ _ now | abort _ _ _ now | clear _ now | rejoin _ now => cases hc.symm.trans now

lemma perform_closing {m : Move} (hm : m ≠ .close) : (p.perform m).closing = p.closing := by
  unfold perform
  split
  · rfl
  · cases m <;> first | rfl | exact absurd rfl hm

/-- The pipeline was closed before, or the last part of the shutdown was possible and has been
done. -/
lemma act_closed {a : Act} (hc : (p.act a).closing = .closed) :
    p.closing = .closed ∨ a = .move .close ∧ p.closing = .leaving ∧ p.canClose = true := by
  cases a with
  | start =>
    rcases p.act_start_cases with he | ⟨-, hs⟩
    · exact .inl (he ▸ hc)
    · exact .inl (hs.closing.symm.trans hc)
  | stop =>
    rcases p.act_stop_cases with he | ⟨-, hs⟩
    · exact .inl (he ▸ hc)
    · exact .inl (hs.symm.trans hc)
  | shutdown =>
    rcases p.act_shutdown_cases with he | ⟨-, -, deadline, hd⟩
    · exact .inl (he ▸ hc)
    · cases hd.symm.trans hc
  | pass | setClock | turn => exact .inl hc
  | move m =>
    by_cases hm : m = .close
    · subst hm
      by_cases hen : p.canClose = true
      · have he : p.perform .close = p.onClose := by simp [perform, enabled, hen]
        exact .inr ⟨rfl, (onClose_spec hen).2.last (he ▸ hc), hen⟩
      · have he : p.perform .close = p := by simp [perform, enabled, hen]
        exact .inl (he ▸ hc)
    · exact .inl ((perform_closing hm).symm.trans hc)

lemma AtRest.of_closed (h : p.Staged) (hr : p.closing = .closed → p.AtRest) {a : Act}
    (hc : (p.act a).closing = .closed) : (p.act a).AtRest := by
  rcases act_closed hc with hp | ⟨rfl, hl, hen⟩
  · exact (hr hp).idles ((hr hp).act a)
  · have he : p.act (.move .close) = p.onLeft := by
      simp [Pipeline.act, Pipeline.perform, Pipeline.enabled, hen, onClose, hl]
    have hs := h.act (.move .close)
    have hover : p.sweeper.isOver = true ∧ p.reporter.isOver = true := by
      simpa [canClose, hl] using hen
    exact
      { closed := hc
        load := hs.rested (by rw [hc]; rfl)
        outlets := worker_done fun k hk => hs.done k (by rw [hc]; exact hk)
        background := by rw [he]; exact hover }

lemma Staged.atRest (h : p.Staged) (hr : p.closing = .closed → p.AtRest) {acts : List Act}
    (hc : (p.run acts).closing = .closed) : (p.run acts).AtRest := by
  induction acts generalizing p with
  | nil => exact hr hc
  | cons a acts ih => exact ih (h.act a) (AtRest.of_closed h hr) hc

/-! ### The last wait for the load -/

/-- The load is told to stop as soon as the shutdown is asked for, and who waits is in line. -/
structure Heading (p : Pipeline) : Prop where
  stopping : p.closing ≠ .unasked → p.load.stopping = true
  inLine : p.load.InLine

lemma Heading.aside (h : p.Heading) (hc : p'.closing = p.closing)
    (hs : p'.load.stopping = p.load.stopping) (hw : p'.load.workers = p.load.workers)
    (hl : p'.load.senders = p.load.senders) : p'.Heading :=
  ⟨by rw [hc, hs]; exact h.stopping, h.inLine.same hw hl⟩

lemma collect_line (l : Load) :
    l.collect.stopping = l.stopping ∧ l.collect.senders = l.senders ∧
      l.collect.toGo = l.toGo := by
  unfold Load.collect
  split
  · next ht => exact ⟨rfl, rfl, by rw [Load.toGo, Load.toGo, ht]; rfl⟩
  · exact ⟨rfl, rfl, rfl⟩

/-- The shutdown itself moves nobody in the load. -/
lemma onClose_line (p : Pipeline) :
    p.onClose.load.stopping = p.load.stopping ∧ p.onClose.load.senders = p.load.senders ∧
      p.onClose.load.toGo = p.load.toGo := by
  unfold onClose
  split
  case h_3 deadline _ =>
    unfold onJoined
    split
    · exact collect_line p.load
    · exact ⟨rfl, rfl, rfl⟩
  case h_4 =>
    unfold onLook
    split
    · exact ⟨rfl, rfl, rfl⟩
    · split <;> exact ⟨rfl, rfl, rfl⟩
  case h_7 =>
    unfold onAwaited
    dsimp only
    split <;> exact ⟨rfl, rfl, rfl⟩
  case h_8 =>
    unfold onClear
    dsimp only
    split <;> exact ⟨rfl, rfl, rfl⟩
  case h_9 =>
    unfold onRejoined
    dsimp only
    split <;> split
    · exact ⟨rfl, rfl, rfl⟩
    · exact collect_line p.load
    · exact ⟨rfl, rfl, rfl⟩
    · exact collect_line p.load
  all_goals exact ⟨rfl, rfl, rfl⟩

lemma Heading.perform (h : p.Heading) (m : Move) : (p.perform m).Heading := by
  unfold Pipeline.perform
  split
  · exact h
  next hen =>
  rw [Bool.not_eq_true, Bool.not_eq_false'] at hen
  cases m with
  | close =>
    have hasked : p.closing ≠ .unasked := by
      intro hc
      simp [Pipeline.enabled, canClose, hc] at hen
    obtain ⟨hstop, hline, -⟩ := p.onClose_line
    exact ⟨fun _ => hstop.trans (h.stopping hasked),
      h.inLine.same (onClose_spec hen).1.load.workers hline⟩
  | load m =>
    exact ⟨fun hc => (p.load.perform_effect m).stopping.trans (h.stopping hc), h.inLine.perform m⟩
  | outlet m => exact h.aside rfl rfl rfl rfl
  | sweep | armSweeper | endSweeper | armReporter | report | endReporter =>
    exact h.aside rfl rfl rfl rfl

lemma stop_line (p : Pipeline) :
    p.stop.load.stopping = true ∧ p.stop.load.workers = p.load.workers ∧
      p.stop.load.senders = p.load.senders := by
  unfold stop Load.stop
  split
  · next hs => exact ⟨hs, rfl, rfl⟩
  · exact ⟨rfl, rfl, rfl⟩

lemma Heading.act (h : p.Heading) (a : Act) : (p.act a).Heading := by
  cases a with
  | start =>
    rcases p.act_start_cases with he | ⟨hc, hs⟩
    · rwa [he]
    · obtain ⟨n, hn⟩ := hs.workers
      refine ⟨fun hu => absurd (hs.closing.trans hc) hu, fun w left made q hw => ?_⟩
      rw [Load.worker, hn, Array.getElem?_replicate] at hw
      split at hw <;> cases hw
  | stop =>
    simp only [Pipeline.act]
    split
    · next hc =>
      obtain ⟨-, hw, hl⟩ := p.stop_line
      exact ⟨fun hu => absurd (p.stop_spec.2.trans hc) hu, h.inLine.same hw hl⟩
    · exact h
  | shutdown =>
    simp only [Pipeline.act]
    split
    · unfold beginClosing
      split
      · exact h
      · obtain ⟨hstop, hw, hl⟩ := p.stop_line
        exact ⟨fun _ => hstop, h.inLine.same hw hl⟩
    · exact h
  | pass | setClock | turn => exact h.aside rfl rfl rfl rfl
  | move m => exact h.perform m

lemma Heading.run (h : p.Heading) (acts : List Act) : (p.run acts).Heading := by
  induction acts generalizing p with
  | nil => exact h
  | cons a acts ih => exact ih (h.act a)

/-- Nothing but the load itself changes how far it has to go. -/
lemma act_toGo (p : Pipeline) (hc : p.closing ≠ .unasked) {a : Act}
    (ha : ∀ m, a ≠ .move (.load m)) : (p.act a).load.toGo = p.load.toGo := by
  cases a with
  | start | stop | shutdown => simp [act, hc]
  | pass | setClock | turn => rfl
  | move m =>
    simp only [act]
    unfold perform
    split
    · rfl
    cases m with
    | load m => exact absurd rfl (ha m)
    | close => exact p.onClose_line.2.2
    | outlet | sweep | armSweeper | endSweeper | armReporter | report | endReporter => rfl

section Whole

variable {g : GeneratorSettings} {seed : UInt64} {processors : Nat} {table : Table} {sink : Sink}
  {wall : Time} {acts : List Act}

lemma build_staged (hp : build g seed processors table sink wall = .ok p) :
    p.Staged ∧ p.closing = .unasked := by
  obtain ⟨-, -, hc, -⟩ := build_spec hp
  refine ⟨⟨?_, ?_, ?_, ?_⟩, hc⟩ <;> rw [hc] <;> nofun

/-- **Nothing happens after the shutdown.** However the load, the sink workers and the shutdown have
taken turns, with workers given up on or waiting for the queue, and whatever the sink has done: when
the shutdown has come to its end, the ticker and every worker have ended, the queue is closed and
empty, and every sink worker has come to an end. From then on no move is possible. So the counters
of the load stay as they are, the steps that were reported are all there will be, and the sink is
given nothing. -/
theorem run_rests (hp : build g seed processors table sink wall = .ok p)
    (hc : (p.run acts).closing = .closed) (acts' : List Act) :
    let q := p.run acts
    let r := q.run acts'
    (q.load.ticker = .ended ∨ q.load.ticker = .failed) ∧
      (∀ w, q.load.worker w = .ended) ∧
      q.queue.closed = true ∧ q.queue.items = [] ∧
      (∀ k, isDone (q.outlets.worker k) = true) ∧
      q.Idles r ∧
      r.load.stats = q.load.stats ∧ r.load.stats.steps = q.report.steps ∧
      r.queue = q.queue ∧
      ∀ m, r.enabled m = false := by
  intro q r
  obtain ⟨hs, hu⟩ := build_staged hp
  have hq : q.AtRest := hs.atRest (fun h => by cases hu.symm.trans h) hc
  have hshut := (hs.run acts).shut (by rw [hc]; rfl)
  have hi : q.Idles r := hq.run acts'
  obtain ⟨hticker, hworkers⟩ := Load.ended_of_isOver hq.load
  have hsteps : r.load.stats.steps = q.report.steps := congrArg LoadStats.steps hi.stats
  exact ⟨hticker, hworkers, hshut.1, hshut.2, hq.outlets, hi, hi.stats, hsteps, hi.queue,
    (hq.idles hi).enabled⟩

/-- The shutdown has given up on a worker whose event is dropped, and an hour later all is as it
was. -/
theorem run_rests_late :
    ∃ p acts, build hasty 0 1 .standard .discard 0 = .ok p ∧ (p.run acts).closing = .closed ∧
      (p.run acts).report.dropped = 1 ∧ (p.run acts).load.worker 0 = .ended ∧
      ((p.run acts).run [.pass (3600 * nanosPerSec), .move (.load (.take 0))]).load.stats =
        (p.run acts).load.stats := by
  obtain ⟨p, acts, hp, -, hclosed, -, hdropped, -⟩ := late_run
  obtain ⟨-, hworkers, -, -, -, -, hstats, -⟩ :=
    run_rests hp hclosed [.pass (3600 * nanosPerSec), .move (.load (.take 0))]
  exact ⟨p, acts, hp, hclosed, hdropped, hworkers 0, hstats⟩

/-- **The last wait for the load comes to an end.** When the shutdown waits for the load after it
has closed the queue, it can go on, or the ticker or a worker can move; every such move brings the
load nearer to its end, and nothing takes it back. -/
theorem run_way_out (hp : build g seed processors table sink wall = .ok p)
    (hc : (p.run acts).closing = .rejoining) :
    let q := p.run acts
    (q.enabled .close = true ∨ ∃ m, q.enabled (.load m) = true) ∧
      (∀ m, q.enabled (.load m) = true → (q.act (.move (.load m))).load.toGo < q.load.toGo) ∧
      ∀ a, (∀ m, a ≠ .move (.load m)) → (q.act a).load.toGo = q.load.toGo := by
  intro q
  obtain ⟨hs, hu⟩ := build_staged hp
  have hasked : q.closing ≠ .unasked := by rw [hc]; exact Closing.noConfusion
  have hheading : q.Heading := by
    refine Heading.run ⟨fun h => absurd hu h, fun w left made pending hw => ?_⟩ acts
    obtain ⟨-, -, -, -, hw', -⟩ := build_spec hp
    simp [Load.worker, hw'] at hw
  have he : q.load.Ending :=
    ⟨hheading.stopping hasked, ((hs.run acts).shut (by rw [hc]; rfl)).1, hheading.inLine⟩
  refine ⟨?_, fun m hm => ?_, fun a ha => q.act_toGo hasked ha⟩
  · cases hv : q.load.isOver with
    | true => exact .inl (by simp [enabled, canClose, q, hc, hv])
    | false => exact .inr (he.enabled hv)
  · have hact : (q.act (.move (.load m))).load = q.load.perform m := by
      simp [act, perform, hm]
    rw [hact]
    exact he.toGo_lt hm

end Whole

end Pipeline

end ShopTraffic
