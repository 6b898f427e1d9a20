import ShopTraffic.Proofs.Flow.Grace

/-!
No event is lost or duplicated in a run of the pipeline. At every moment each event that was
produced has been sent or refused or is about to be sent, and each event that was sent has been
published, refused by the sink or dropped, or is in the queue or in the hands of a sink worker. When
the pipeline is closed the load and the queue have nothing left, and sink workers hold only what
they were publishing when they were ended by force.
-/

namespace ShopTraffic

/-- The worker was ended by force with an event in its hands. -/
def Outlet.isStuck : Outlet → Bool
  | .aborted (some _) => true
  | _ => false

def Outlets.stuck (o : Outlets) : Nat := o.workers.countP Outlet.isStuck

namespace Pipeline

/-- The account agrees with what is in the parts of the pipeline and with what is counted. -/
structure Balanced (p : Pipeline) (h : Account) : Prop where
  produced : h .produced = h .sent + h .refused + p.load.held
  sent : h .sent = h .published + h .failed + h .dropped + p.outlets.held + p.queue.items
  counted : p.queue.Counted
  emitted : p.load.stats.emitted = (h .sent).card
  refused : p.load.sim.errorsOf "queue_closed" = (h .refused).card
  events : p.load.sim.metrics.counts.events = (h .published).card
  failures : Outlets.failures p.load.sim = (h .failed).card
  dropped : p.findings.dropped = (h .dropped).card
  undropped : p.closing.isShut = false → h .dropped = 0

variable {p p' : Pipeline} {h a : Account} {g : GeneratorSettings}

/-! ### The balance -/

/-- The load has gone on, and nothing else that matters has changed. -/
lemma Balanced.load (hb : p.Balanced h) (hl : p.load.Passes p'.load a)
    (ho : p'.outlets.held = p.outlets.held) (hd : p'.findings.dropped = p.findings.dropped)
    (hc : p'.closing.isShut = false → p.closing.isShut = false) : p'.Balanced (h + a) := by
  obtain ⟨hpub, hfail, hdrop⟩ := hl.others
  refine
    { produced := ?_
      sent := ?_
      counted := hl.counted hb.counted
      emitted := ?_
      refused := ?_
      events := ?_
      failures := ?_
      dropped := ?_
      undropped := ?_ }
  · calc h .produced + a .produced
        = h .sent + h .refused + (p.load.held + a .produced) := by rw [hb.produced, add_assoc]
      _ = h .sent + h .refused + (p'.load.held + a .sent + a .refused) := by rw [hl.held]
      _ = h .sent + a .sent + (h .refused + a .refused) + p'.load.held := by ac_rfl
  · have hq : (p'.queue.items : Multiset Event) = p.queue.items + a .sent := hl.queue
    rw [Pi.add_apply, Pi.add_apply, Pi.add_apply, Pi.add_apply, hpub, hfail, hdrop, hb.sent, ho, hq]
    simp only [add_zero]
    ac_rfl
  · rw [hl.emitted, hb.emitted, Pi.add_apply, Multiset.card_add]
  · rw [hl.refused, hb.refused, Pi.add_apply, Multiset.card_add]
  · rw [hl.events, hb.events, Pi.add_apply, hpub, add_zero]
  · rw [Outlets.failures, hl.errors _ (by decide), hl.errors _ (by decide), Pi.add_apply, hfail,
      add_zero]
    exact hb.failures
  · rw [hd, hb.dropped, Pi.add_apply, hdrop, add_zero]
  · intro hs
    rw [Pi.add_apply, hdrop, add_zero]
    exact hb.undropped (hc hs)

/-- The sink workers have gone on, and nothing else that matters has changed. -/
lemma Balanced.outlets (hb : p.Balanced h)
    (ho : p.outlets.Passes p'.outlets p.load.sim p'.load.sim a)
    (hl : p'.load.held = p.load.held) (he : p'.load.stats.emitted = p.load.stats.emitted)
    (hd : p'.findings.dropped = p.findings.dropped) (hc : p'.closing = p.closing) :
    p'.Balanced (h + a) := by
  obtain ⟨hprod, hsent, href, hdrop⟩ := ho.others
  refine
    { produced := ?_
      sent := ?_
      counted := ho.counted hb.counted
      emitted := ?_
      refused := ?_
      events := ?_
      failures := ?_
      dropped := ?_
      undropped := ?_ }
  · rw [Pi.add_apply, Pi.add_apply, Pi.add_apply, hprod, hsent, href, hb.produced, hl]
    simp only [add_zero]
  · have hh : p.outlets.held + p.queue.items =
        p'.outlets.held + p'.queue.items + a .published + a .failed := ho.held.symm
    calc h .sent + a .sent
        = h .published + h .failed + h .dropped + (p.outlets.held + p.queue.items) := by
          rw [hsent, hb.sent, add_zero, add_assoc]
      _ = h .published + h .failed + h .dropped +
            (p'.outlets.held + p'.queue.items + a .published + a .failed) := by rw [hh]
      _ = h .published + a .published + (h .failed + a .failed) + (h .dropped + a .dropped) +
            p'.outlets.held + p'.queue.items := by
          rw [hdrop, add_zero]
          ac_rfl
  · rw [he, hb.emitted, Pi.add_apply, hsent, add_zero]
  · rw [ho.refused, hb.refused, Pi.add_apply, href, add_zero]
  · rw [ho.events, hb.events, Pi.add_apply, Multiset.card_add]
  · rw [ho.failures, hb.failures, Pi.add_apply, Multiset.card_add]
  · rw [hd, hb.dropped, Pi.add_apply, hdrop, add_zero]
  · intro hs
    rw [Pi.add_apply, hdrop, add_zero]
    exact hb.undropped (hc ▸ hs)

/-- No event has been touched between `p` and `p'`. -/
structure Quiet (p p' : Pipeline) : Prop where
  sim : p.load.sim.Undisturbed p'.load.sim
  load : p'.load.held = p.load.held
  emitted : p'.load.stats.emitted = p.load.stats.emitted
  outlets : p'.outlets.held = p.outlets.held
  dropped : p'.findings.dropped = p.findings.dropped
  shut : p'.closing.isShut = false → p.closing.isShut = false

lemma Balanced.quiet (hb : p.Balanced h) (hq : p.Quiet p') : p'.Balanced h :=
  add_zero h ▸
    hb.load (Load.passes_of_quiet hq.load hq.sim hq.emitted) hq.outlets hq.dropped hq.shut

/-- Nobody has put an event down or taken one up. -/
lemma Frame.quiet (hf : p.Frame p') (hq : p'.queue = p.queue)
    (ho : p'.outlets.held = p.outlets.held) (hd : p'.findings.dropped = p.findings.dropped)
    (hc : p'.closing.isShut = false → p.closing.isShut = false) : p.Quiet p' where
  sim := hf.undisturbed hq
  load := by rw [Load.held, Load.held, hf.load.workers]
  emitted := congrArg LoadStats.emitted hf.load.stats
  outlets := ho
  dropped := hd
  shut := hc

/-- What is left in the queue is dropped. -/
lemma Balanced.clear (hb : p.Balanced h) (hf : p.Frame p') (hc : p.closing = .clearing)
    (hc' : p'.closing = .rejoining) (ho : p'.outlets = p.outlets)
    (hq : p'.queue = p.queue.close.clear)
    (hd : p'.findings = { p.findings with dropped := p.queue.length }) :
    p'.Balanced (h + entry .dropped p.queue.items) := by
  have hzero : h .dropped = 0 := hb.undropped (by rw [hc]; rfl)
  have hheld : p'.load.held = p.load.held := by rw [Load.held, Load.held, hf.load.workers]
  have hmetrics : p'.load.sim.metrics = p.load.sim.metrics := hf.load.metrics
  have hcount : p.queue.length = p.queue.items.length := hb.counted
  refine
    { produced := ?_
      sent := ?_
      counted := by rw [hq]; rfl
      emitted := ?_
      refused := ?_
      events := ?_
      failures := ?_
      dropped := ?_
      undropped := fun hs => by rw [hc'] at hs; cases hs }
  · rw [add_entry_other (by decide), add_entry_other (by decide), add_entry_other (by decide),
      hheld, hb.produced]
  · rw [add_entry_other (by decide), add_entry_other (by decide), add_entry_other (by decide),
      Pi.add_apply, entry_self, hb.sent, hzero, ho, hq, Queue.items_clear]
    simp only [add_zero, Multiset.coe_nil]
    ac_rfl
  · rw [hf.load.stats, hb.emitted, add_entry_other (by decide)]
  · rw [Simulation.errorsOf, hmetrics, add_entry_other (by decide)]
    exact hb.refused
  · rw [hmetrics, hb.events, add_entry_other (by decide)]
  · rw [Outlets.failures, Simulation.errorsOf, Simulation.errorsOf, hmetrics,
      add_entry_other (by decide)]
    exact hb.failures
  · rw [hd, hcount, Pi.add_apply, entry_self, hzero, zero_add, Multiset.coe_card]

/-- Whoever is ended by force keeps what it holds. -/
lemma held_of_abort {o : Outlets} {k : Nat} (hk : isDone (o.worker k) = false) :
    (o.abort k).held = o.held := by
  cases hw : o.worker k with
  | idle =>
    have ha : (o.abort k).workers = o.workers.set! k (.aborted none) := by
      unfold Outlets.abort
      rw [hw]
      rfl
    have hs : (o.abort k).held + Outlet.held .idle = o.held + Outlet.held (.aborted none) :=
      Outlets.held_of_set hw Outlet.noConfusion ha
    exact (add_zero _).symm.trans (hs.trans (add_zero _))
  | publishing e a =>
    have ha : (o.abort k).workers = o.workers.set! k (.aborted (some e)) := by
      unfold Outlets.abort
      rw [hw]
      rfl
    have hs : (o.abort k).held + {e} = o.held + {e} :=
      Outlets.held_of_set hw Outlet.noConfusion ha
    exact add_right_cancel hs
  | ended | failed | aborted =>
    rw [hw] at hk
    cases hk

/-- The shutdown goes on, and but for what it drops no event is touched. -/
lemma Balanced.close (hb : p.Balanced h) (hf : p.Frame p') (hcl : p.Closes p') :
    p'.Balanced (h + p.fates (.move .close)) := by
  have hstill : p.closing ≠ .clearing → p.Quiet p' → p'.Balanced (h + p.fates (.move .close)) := by
    intro hn hq
    have hz : p.fates (.move .close) = 0 := by simp only [fates]
    rw [hz, add_zero]
    exact hb.quiet hq
  have hsame : p.closing ≠ .clearing → p.Same p' →
      (p'.closing.isShut = false → p.closing.isShut = false) →
      p'.Balanced (h + p.fates (.move .close)) :=
    fun hn ⟨ho, hq, hd⟩ hs => hstill hn (hf.quiet hq (by rw [ho]) (by rw [hd]) hs)
  cases hcl with
  | join _ was _ ho hq found =>
    refine hstill (by rw [was]; nofun) (hf.quiet hq (by rw [ho]) ?_ fun _ => by rw [was]; rfl)
    rcases found with hd | ⟨-, hd⟩ <;> rw [hd]
  | tell _ was _ ho hq found =>
    refine hstill (by rw [was]; nofun) (hf.quiet hq (by rw [ho]; rfl) ?_ fun _ => by rw [was]; rfl)
    rcases found with hd | ⟨-, hd⟩ <;> rw [hd]
  | pause _ _ was _ same => exact hsame (by rw [was]; nofun) same fun _ => by rw [was]; rfl
  | look _ _ was _ same => exact hsame (by rw [was]; nofun) same fun _ => by rw [was]; rfl
  | turn _ was _ same => exact hsame (by rw [was]; nofun) same fun _ => by rw [was]; rfl
  | done _ was _ _ same => exact hsame (by rw [was]; nofun) same fun _ => by rw [was]; rfl
  | next _ _ was _ _ same => exact hsame (by rw [was]; nofun) same fun _ => by rw [was]; rfl
  | abort k _ was _ busy _ ho hq hd =>
    have hheld : p'.outlets.held = p.outlets.held := by rw [ho, held_of_abort busy]
    exact hstill (by rw [was]; nofun) (hf.quiet hq hheld (by rw [hd]) fun _ => by rw [was]; rfl)
  | clear was now ho hq hd =>
    simp only [fates, was]
    exact hb.clear hf was now ho hq hd
  | rejoin was now _ same => exact hsame (by rw [was]; nofun) same (by rw [now]; nofun)
  | leave was now same => exact hsame (by rw [was]; nofun) same (by rw [now]; nofun)

/-! ### All acts -/

lemma fates_of_not_enabled {m : Move} (hm : p.enabled m = false) : p.fates (.move m) = 0 := by
  cases m with
  | close =>
    cases hc : p.closing <;> simp only [fates, hc]
    simp [enabled, canClose, hc] at hm
  | load m =>
    change p.load.enabled m = false at hm
    simp [fates, Load.fates, hm]
  | outlet m =>
    change p.outlets.enabled p.queue p.instant m = false at hm
    simp [fates, Outlets.fates, hm]
  | armSweeper | sweep | endSweeper | armReporter | report | endReporter => rfl

lemma Balanced.perform (hb : p.Balanced h) (ho : p.Ordered g) (m : Move) :
    (p.perform m).Balanced (h + p.fates (.move m)) := by
  unfold Pipeline.perform
  split
  · next hen =>
    rw [Bool.not_eq_true'] at hen
    rw [fates_of_not_enabled hen, add_zero]
    exact hb
  next hen =>
  rw [Bool.not_eq_true, Bool.not_eq_false'] at hen
  cases m with
  | close =>
    obtain ⟨hf, hcl⟩ := onClose_spec hen
    exact hb.close hf hcl
  | load m => exact hb.load (p.load.perform_passes m) rfl rfl id
  | outlet m =>
    exact hb.outlets (Outlets.perform_passes ho.steady p.load.sim p.load.instant m) rfl rfl rfl rfl
  | sweep =>
    rw [show p.fates (.move .sweep) = 0 from rfl, add_zero]
    exact hb.quiet ⟨p.load.sim.sweep_undisturbed _, rfl, rfl, rfl, rfl, id⟩
  | armSweeper | endSweeper | armReporter | report | endReporter =>
    exact (add_zero h).symm ▸ hb.quiet ⟨⟨rfl, rfl, rfl, rfl⟩, rfl, rfl, rfl, rfl, id⟩

lemma Starts.quiet (hs : p.Starts p') (ho : p.Ordered g) : p.Quiet p' := by
  obtain ⟨hw, hk⟩ := ho.fresh hs.first
  obtain ⟨n, hn⟩ := hs.workers
  have hl : p.load.held = 0 := holdings_eq_zero fun k x hx => by simp [hw] at hx
  have hout : p.outlets.held = 0 := holdings_eq_zero fun k x hx => by simp [hk] at hx
  have hl' : p'.load.held = 0 := by
    unfold Load.held
    rw [hn]
    exact holdings_replicate n rfl
  have hout' : p'.outlets.held = 0 := by
    rw [hs.outlets]
    exact holdings_replicate _ rfl
  exact
    { sim := hs.sim
      load := hl'.trans hl.symm
      emitted := congrArg LoadStats.emitted hs.stats
      outlets := hout'.trans hout.symm
      dropped := congrArg Findings.dropped hs.findings
      shut := by rw [hs.closing]; exact id }

lemma Stops.quiet (hs : p.Stops p') (hc : p'.closing.isShut = false → p.closing.isShut = false) :
    p.Quiet p' :=
  hs.frame.quiet hs.queue (congrArg Outlets.held hs.outlets) (congrArg Findings.dropped hs.findings)
    hc

/-- **Every act keeps the balance.** -/
lemma Balanced.act (hb : p.Balanced h) (ho : p.Ordered g) (a : Act) :
    (p.act a).Balanced (h + p.fates a) := by
  cases a with
  | start =>
    refine (add_zero h).symm ▸ ?_
    rcases p.act_start_cases with he | ⟨-, hs⟩
    · rwa [he]
    · exact hb.quiet (hs.quiet ho)
  | stop =>
    refine (add_zero h).symm ▸ ?_
    rcases p.act_stop_cases with he | ⟨hs, hc⟩
    · rwa [he]
    · exact hb.quiet (hs.quiet (by rw [hc]; exact id))
  | shutdown =>
    refine (add_zero h).symm ▸ ?_
    rcases p.act_shutdown_cases with he | ⟨hc, hs, -⟩
    · rwa [he]
    · exact hb.quiet (hs.quiet fun _ => by rw [hc]; rfl)
  | pass span | setClock wall | turn sink =>
    exact (add_zero h).symm ▸ hb.quiet ⟨p.load.sim.undisturbed_refl, rfl, rfl, rfl, rfl, id⟩
  | move m => exact hb.perform ho m

lemma Balanced.run (hb : p.Balanced h) (ho : p.Ordered g) {acts : List Act}
    (hs : ∀ s, .turn s ∈ acts → s.Steady) :
    (p.run acts).Balanced (h + p.history acts) ∧ (p.run acts).Ordered g := by
  induction acts generalizing p h with
  | nil => exact ⟨(add_zero h).symm ▸ hb, ho⟩
  | cons a acts ih =>
    have ho' := ho.act fun s ha => hs s (ha ▸ List.mem_cons_self)
    obtain ⟨hb', ho''⟩ := ih (hb.act ho a) ho' fun s ha => hs s (List.mem_cons_of_mem _ ha)
    exact ⟨add_assoc h _ _ ▸ hb', ho''⟩

/-! ### The whole run -/

section Whole

variable {seed : UInt64} {processors : Nat} {table : Table} {sink : Sink}
  {wall : Time} {acts : List Act}

lemma build_spec (hp : build g seed processors table sink wall = .ok p) :
    p.settings = g ∧ p.outlets = { sink } ∧ p.closing = .unasked ∧ p.findings = {} ∧
      p.load.workers = #[] ∧ p.load.stats = {} ∧
      Simulation.Undisturbed
        (Simulation.create ((g.seed.map Nat.toUInt64).getD seed) g.ttl g.queueCapacity table)
        p.load.sim := by
  unfold build at hp
  split at hp
  · cases hp
  split at hp
  · cases hp
  cases hp
  exact ⟨rfl, rfl, rfl, rfl, rfl, rfl, Simulation.ensureVisitors_undisturbed _ _⟩

lemma build_ordered (hp : build g seed processors table sink wall = .ok p) (hs : sink.Steady) :
    p.Ordered g := by
  obtain ⟨hg, ho, hc, -, hw, -⟩ := build_spec hp
  refine ⟨hg, ?_, ?_, ?_, ?_, ?_, ?_, ?_⟩ <;> simp only [ho, hc, hw]
  · exact hs
  · exact Nat.zero_le _
  · exact fun _ => ⟨rfl, rfl⟩
  all_goals nofun

lemma build_balanced (hp : build g seed processors table sink wall = .ok p) : p.Balanced 0 := by
  obtain ⟨-, ho, hc, hf, hw, ht, hs⟩ := build_spec hp
  have hl : p.load.held = 0 := by
    rw [Load.held, hw]
    rfl
  have hq : p.queue.items = [] := by
    rw [queue, hs.output]
    rfl
  have he : ∀ kind, p.load.sim.errorsOf kind = 0 := by
    intro kind
    rw [Simulation.errorsOf, hs.errors]
    rfl
  exact
    { produced := by rw [hl]; rfl
      sent := by rw [hq, ho]; rfl
      counted := by rw [queue, hs.output]; rfl
      emitted := by rw [ht]; rfl
      refused := he _
      events := by rw [hs.events]; rfl
      failures := by rw [Outlets.failures, he, he]; rfl
      dropped := by rw [hf]; rfl
      undropped := fun _ => rfl }

lemma build_timely (hp : build g seed processors table sink wall = .ok p) : p.Timely := by
  obtain ⟨-, ho, -⟩ := build_spec hp
  have hw : ∀ k, p.outlets.worker k = .ended := fun k => by simp [ho, Outlets.worker]
  exact
    { pending := fun k e due r hk => by cases (hw k).symm.trans hk
      awaited := fun k limit e a _ hk => by cases (hw k).symm.trans hk
      freed := fun k e hk => by cases (hw k).symm.trans hk }

/-- Workers that have come to an end hold as many events as there are stuck ones among them. -/
lemma stuck_of_done {o : Outlets} (hd : ∀ k < o.workers.size, isDone (o.worker k) = true) :
    o.held.card = o.stuck := by
  refine card_holdings fun x hx => ?_
  obtain ⟨k, hk⟩ := Array.mem_iff_getElem?.mp hx
  have hs : k < o.workers.size := (Array.getElem?_eq_some_iff.mp hk).1
  have hw : o.worker k = x := by rw [Outlets.worker, hk]; rfl
  have hx : isDone x = true := hw ▸ hd k hs
  rcases x with _ | _ | _ | _ | held
  · cases hx
  · cases hx
  · rfl
  · rfl
  · cases held <;> rfl

lemma Timely.unstuck (h : p.Timely) : p.outlets.stuck = 0 := by
  refine Array.countP_eq_zero.mpr fun x hx => ?_
  obtain ⟨k, hk⟩ := Array.mem_iff_getElem?.mp hx
  have hw : p.outlets.worker k = x := by rw [Outlets.worker, hk]; rfl
  rcases x with _ | _ | _ | _ | held
  case aborted =>
    cases held with
    | none => exact Bool.false_ne_true
    | some e => exact absurd hw (h.freed k e)
  all_goals exact Bool.false_ne_true

/-- When all is closed, the load and the queue have nothing left. -/
lemma Balanced.settled (hb : p.Balanced h) (ho : p.Ordered g) (hc : p.closing = .closed) :
    h .produced = h .sent + h .refused ∧
      h .sent = h .published + h .failed + h .dropped + p.outlets.held ∧
      p.outlets.stuck = p.outlets.held.card := by
  have hload : p.load.held = 0 := Load.held_of_isOver (ho.rested (by rw [hc]; rfl))
  have hqueue : p.queue.items = [] := (ho.shut (by rw [hc]; rfl)).2
  have hdone := ho.done
  have hprod := hb.produced
  have hsent := hb.sent
  rw [hc] at hdone
  rw [hload, add_zero] at hprod
  rw [hqueue, Multiset.coe_nil, add_zero] at hsent
  exact ⟨hprod, hsent, (stuck_of_done hdone).symm⟩

/-- **Every event is accounted for** when a pipeline is closed, and none of them twice. -/
theorem run_conserves (hp : build g seed processors table sink wall = .ok p) (hs : sink.Steady)
    (ht : ∀ s, .turn s ∈ acts → s.Steady) (hc : (p.run acts).closing = .closed) :
    let q := p.run acts
    let h := p.history acts
    let m := q.report.metrics
    q.load.stats.emitted =
        m.events + (m.errors.getD "serialization" 0 + m.errors.getD "publish" 0) +
          q.report.dropped + q.outlets.stuck ∧
      q.outlets.stuck ≤ g.sinkWorkers ∧
      (Along Pipeline.act InTime p acts → q.outlets.stuck = 0) ∧
      h .produced = h .sent + h .refused ∧
      h .sent = h .published + h .failed + h .dropped + q.outlets.held ∧
      q.load.stats.emitted = (h .sent).card ∧
      m.errors.getD "queue_closed" 0 = (h .refused).card ∧
      m.events = (h .published).card ∧
      m.errors.getD "serialization" 0 + m.errors.getD "publish" 0 = (h .failed).card ∧
      q.report.dropped = (h .dropped).card ∧
      q.outlets.stuck = q.outlets.held.card := by
  intro q h m
  have ho := build_ordered hp hs
  obtain ⟨hb, hq⟩ := (build_balanced hp).run ho ht
  rw [zero_add] at hb
  obtain ⟨hprod, hsent, hstuck⟩ := hb.settled hq hc
  have hpub : m.events = (h .published).card := hb.events
  have hfail : m.errors.getD "serialization" 0 + m.errors.getD "publish" 0 = (h .failed).card :=
    hb.failures
  have hdrop : q.report.dropped = (h .dropped).card := hb.dropped
  have hcard : (h .sent).card = (h .published).card + (h .failed).card + (h .dropped).card +
      q.outlets.held.card := by
    rw [← Multiset.card_add, ← Multiset.card_add, ← Multiset.card_add]
    exact congrArg Multiset.card hsent
  refine ⟨?_, Array.countP_le_size.trans hq.crew, fun ha => ?_, hprod, hsent, hb.emitted,
    hb.refused, hpub, hfail, hdrop, hstuck⟩
  · rw [hpub, hfail, hdrop, hstuck, ← hcard]
    exact hb.emitted
  · exact ((build_timely hp).run ho ht ha).unstuck

/-- The one event of a run is dropped. -/
theorem run_conserves_late :
    ∃ p acts, build hasty 0 1 .standard .discard 0 = .ok p ∧ (p.run acts).closing = .closed ∧
      (p.run acts).load.stats.emitted = 1 ∧ (p.run acts).report.dropped = 1 ∧
      (p.run acts).load.stats.emitted =
        (p.run acts).report.metrics.events +
          ((p.run acts).report.metrics.errors.getD "serialization" 0 +
            (p.run acts).report.metrics.errors.getD "publish" 0) +
          (p.run acts).report.dropped + (p.run acts).outlets.stuck := by
  obtain ⟨p, acts, hp, hturn, hclosed, -, hdropped, hsent⟩ := late_run
  have h := run_conserves hp Sink.discard_steady (fun s hs => absurd hs (hturn s)) hclosed
  exact ⟨p, acts, hp, hclosed, hsent, hdropped, h.1⟩

end Whole

end Pipeline

end ShopTraffic
