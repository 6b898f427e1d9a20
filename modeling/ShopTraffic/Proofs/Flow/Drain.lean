import ShopTraffic.Proofs.Flow.Conservation

/-!
What it means that the queue was seen empty. If the load had ended before, nothing can come into the
queue any more, and nothing is dropped. If the load was given up on, a worker that is still in the
middle of its batch can fill the queue again behind the look.
-/

namespace ShopTraffic

/-- Nothing comes out of an empty queue, and nothing comes in. -/
lemma Outlets.perform_empty {sim : Simulation} (hq : sim.output.items = []) (o : Outlets)
    (now : Instant) (m : Move) : (o.perform m sim now).2.output.items = [] := by
  unfold perform
  split
  · exact hq
  cases m with
  | take k =>
    dsimp only
    split
    · next e q hp =>
      have hi := (Queue.pop_some hp).1
      rw [hq] at hi
      cases hi
    · exact hq
  | answer k =>
    dsimp only
    split
    · next result _ => cases result <;> exact hq
    · exact hq
  | finish k => exact hq

namespace Pipeline

variable {p p' : Pipeline} {g : GeneratorSettings}

/-- The findings hold good: a load that was found to be over is over, and if the queue was seen
empty after that, it is empty. -/
structure Candid (p : Pipeline) : Prop where
  early : p.closing = .unasked ∨ (∃ deadline, p.closing = .joining deadline) → p.findings = {}
  joined : p.findings.joined = true → p.load.isOver = true
  drained : p.findings.joined = true → p.findings.drained = true → p.queue.items = []
  dropped : p.findings.joined = true → p.findings.drained = true → p.findings.dropped = 0

/-- Nothing new has been found out, and what was found to be over or empty is so still. -/
lemma Candid.kept (h : p.Candid)
    (hc : p'.closing = .unasked ∨ (∃ deadline, p'.closing = .joining deadline) →
      p.closing = .unasked ∨ ∃ deadline, p.closing = .joining deadline)
    (hf : p'.findings = p.findings)
    (hv : p.load.isOver = true → p'.load.isOver = true)
    (hq : p.load.isOver = true → p.queue.items = [] → p'.queue.items = []) : p'.Candid where
  early he := hf.trans (h.early (hc he))
  joined hj := hv (h.joined (hf ▸ hj))
  drained hj hd := by
    rw [hf] at hj hd
    exact hq (h.joined hj) (h.drained hj hd)
  dropped hj hd := by
    rw [hf] at hj hd ⊢
    exact h.dropped hj hd

/-- Nothing has been found out so far. -/
lemma candid_of_early (hf : p.findings = {}) : p.Candid where
  early _ := hf
  joined hj := by rw [hf] at hj; cases hj
  drained hj := by rw [hf] at hj; cases hj
  dropped hj := by rw [hf] at hj; cases hj

lemma Candid.close (h : p.Candid) (hf : p.Frame p') (hcl : p.Closes p') {a : Account}
    (hb : p.Balanced a) : p'.Candid := by
  have hn : p.queue.length = p.queue.items.length := hb.counted
  have hsame : p.Same p' → (p'.closing = .unasked ∨ (∃ deadline, p'.closing = .joining deadline) →
      p.closing = .unasked ∨ ∃ deadline, p.closing = .joining deadline) → p'.Candid :=
    fun ⟨_, hq, hd⟩ hc => h.kept hc hd hf.load.rested fun _ hi => hq ▸ hi
  cases hcl with
  | join deadline was now ho hq found =>
    have hz : p.findings = {} := h.early (.inr ⟨deadline, was⟩)
    rcases found with hd | ⟨hv, hd⟩
    · exact candid_of_early (hd.trans hz)
    · exact
        { early := by rw [now]; nofun
          joined := fun _ => hf.load.rested hv
          drained := fun _ hx => by simp [hd, hz] at hx
          dropped := fun _ hx => by simp [hd, hz] at hx }
  | tell deadline was now ho hq found =>
    have hz : p.findings.dropped = 0 := by
      rw [hb.dropped, hb.undropped (by rw [was]; rfl)]
      rfl
    rcases found with hd | ⟨hu, hd⟩
    · exact h.kept (by rw [now]; nofun) hd hf.load.rested fun _ hi => hq ▸ hi
    · have hi : p.queue.items = [] := by
        unfold Queue.used at hu
        exact List.eq_nil_of_length_eq_zero (by omega)
      exact
        { early := by rw [now]; nofun
          joined := fun hj => hf.load.rested (h.joined (by rwa [hd] at hj))
          drained := fun _ _ => by rw [hq]; exact hi
          dropped := fun _ _ => by rw [hd]; exact hz }
  | pause _ _ _ now same => exact hsame same (by rw [now]; nofun)
  | look _ _ _ now same => exact hsame same (by rw [now]; nofun)
  | turn _ _ now same => exact hsame same (by rw [now]; nofun)
  | done _ _ _ now same => exact hsame same (by rw [now]; nofun)
  | next _ _ _ now _ same => exact hsame same (by rw [now]; nofun)
  | abort _ _ _ now _ _ _ hq hd =>
    exact h.kept (by rw [now]; nofun) hd hf.load.rested fun _ hi => hq ▸ hi
  | clear was now ho hq hd =>
    exact
      { early := by rw [now]; nofun
        joined := fun hj => hf.load.rested (h.joined (by rwa [hd] at hj))
        drained := fun _ _ => by rw [hq]; rfl
        dropped := fun hj hx => by
          rw [hd] at hj hx ⊢
          exact hn.trans (congrArg List.length (h.drained hj hx)) }
  | rejoin _ now _ same => exact hsame same (by rw [now]; nofun)
  | leave _ now same => exact hsame same (by rw [now]; nofun)

lemma Candid.perform (h : p.Candid) {a : Account} (hb : p.Balanced a) (m : Move) :
    (p.perform m).Candid := by
  unfold Pipeline.perform
  split
  · exact h
  next hen =>
  rw [Bool.not_eq_true, Bool.not_eq_false'] at hen
  cases m with
  | close =>
    obtain ⟨hf, hcl⟩ := onClose_spec hen
    exact h.close hf hcl hb
  | load m =>
    have hv : p.load.isOver = true → p.load.perform m = p.load :=
      fun hv => Load.perform_of_isOver hv m
    refine h.kept id rfl (fun hx => ?_) fun hx hq => ?_
    · exact (congrArg Load.isOver (hv hx)).trans hx
    · exact (congrArg (fun l : Load => l.sim.output.items) (hv hx)).trans hq
  | outlet m =>
    exact h.kept id rfl id fun _ hq => Outlets.perform_empty hq p.outlets p.load.instant m
  | sweep =>
    refine h.kept id rfl id fun _ hq => ?_
    exact (congrArg Queue.items (p.load.sim.sweep_undisturbed _).output).trans hq
  | armSweeper | endSweeper | armReporter | report | endReporter =>
    exact h.kept id rfl id fun _ => id

lemma Candid.act (h : p.Candid) {a : Account} (hb : p.Balanced a) (x : Act) : (p.act x).Candid := by
  cases x with
  | start =>
    rcases p.act_start_cases with he | ⟨hc, hs⟩
    · rwa [he]
    · exact candid_of_early (hs.findings.trans (h.early (.inl hc)))
  | stop =>
    rcases p.act_stop_cases with he | ⟨hs, hc⟩
    · rwa [he]
    · exact h.kept (by rw [hc]; exact id) hs.findings hs.frame.load.rested
        fun _ hi => hs.queue ▸ hi
  | shutdown =>
    rcases p.act_shutdown_cases with he | ⟨hc, hs, -⟩
    · rwa [he]
    · exact candid_of_early (hs.findings.trans (h.early (.inl hc)))
  | pass span | setClock wall | turn sink => exact h.kept id rfl id fun _ => id
  | move m => exact h.perform hb m

lemma Candid.run {h : Account} (hc : p.Candid) (hb : p.Balanced h) (ho : p.Ordered g)
    {acts : List Act} (hs : ∀ s, .turn s ∈ acts → s.Steady) : (p.run acts).Candid := by
  induction acts generalizing p h with
  | nil => exact hc
  | cons a acts ih =>
    exact ih (hc.act hb a) (hb.act ho a) (ho.act fun s ha => hs s (ha ▸ List.mem_cons_self))
      fun s ha => hs s (List.mem_cons_of_mem _ ha)

/-- **A clean drain drops nothing** if the load had ended in time. -/
theorem run_clean {seed : UInt64} {processors : Nat} {table : Table} {sink : Sink} {wall : Time}
    {acts : List Act} (hp : build g seed processors table sink wall = .ok p) (hs : sink.Steady)
    (ht : ∀ s, .turn s ∈ acts → s.Steady) (hj : (p.run acts).findings.joined = true)
    (hd : (p.run acts).report.drained = true) : (p.run acts).report.dropped = 0 := by
  obtain ⟨-, -, -, hf, -⟩ := build_spec hp
  have h := (candid_of_early hf).run (build_balanced hp) (build_ordered hp hs) ht
  exact h.dropped hj hd

/-- The only event of a run is published, the load ends, and nothing is dropped. -/
theorem run_clean_prompt : ∃ p acts, build hasty 0 1 .standard .discard 0 = .ok p ∧
    (∀ s, .turn s ∈ acts → s.Steady) ∧ (p.run acts).closing = .closed ∧
    (p.run acts).findings.joined = true ∧ (p.run acts).report.drained = true ∧
    (p.run acts).load.stats.emitted = 1 ∧ (p.run acts).outlets.accepted = 1 ∧
    (p.run acts).report.dropped = 0 := by
  obtain ⟨p, acts, hp, hturn, hclosed, hj, hd, hsent, haccepted⟩ := prompt_run
  have hs : ∀ s, .turn s ∈ acts → s.Steady := fun s h => absurd h (hturn s)
  exact ⟨p, acts, hp, hs, hclosed, hj, hd, hsent, haccepted,
    run_clean hp Sink.discard_steady hs hj hd⟩

/-- **Seeing the queue empty is not enough**: behind the look, a worker that the shutdown has given
up on sends an event, and the event is dropped. -/
theorem drained_and_dropped :
    ∃ p acts, build hasty 0 1 .standard .discard 0 = .ok p ∧ (p.run acts).closing = .closed ∧
      (p.run acts).report.drained = true ∧ (p.run acts).report.dropped = 1 := by
  obtain ⟨p, acts, hp, -, hclosed, hdrained, hdropped, -⟩ := late_run
  exact ⟨p, acts, hp, hclosed, hdrained, hdropped⟩

end Pipeline

end ShopTraffic
