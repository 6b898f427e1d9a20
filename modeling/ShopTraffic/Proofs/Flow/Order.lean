import ShopTraffic.Proofs.Flow.Shutdown

/-!
How far the parts of a pipeline have come at each point of its shutdown. The sink workers are waited
for one after another once they have been told to end, then the queue is closed and emptied, and
last the load is waited for.
-/

namespace ShopTraffic

def Closing.isShut : Closing → Bool
  | .rejoining | .leaving | .closed => true
  | _ => false

/-- All tasks of the load have been waited for. -/
def Closing.isLast : Closing → Bool
  | .leaving | .closed => true
  | _ => false

def Closing.isHalting : Closing → Bool
  | .halting _ | .awaiting _ _ | .clearing | .rejoining | .leaving | .closed => true
  | _ => false

/-- So many sink workers, of all, have been waited for. -/
def Closing.awaited (all : Nat) : Closing → Nat
  | .unasked | .joining _ | .looking _ | .pausing _ _ => 0
  | .halting k | .awaiting k _ => k
  | .clearing | .rejoining | .leaving | .closed => all

lemma Closing.isHalting_of_isShut {c : Closing} (h : c.isShut = true) : c.isHalting = true := by
  cases c <;> first | rfl | cases h

lemma Outlets.perform_output {o : Outlets} (h : o.cancelled = true) (sim : Simulation)
    (now : Instant) (m : Move) : (o.perform m sim now).2.output = sim.output := by
  unfold perform
  split
  · rfl
  next hen =>
  rw [Bool.not_eq_true, Bool.not_eq_false'] at hen
  cases m with
  | take k =>
    have hw := idle_of_take hen
    simp [enabled, hw, h] at hen
  | answer k =>
    dsimp only
    split
    · next result _ => cases result <;> rfl
    · rfl
  | finish k => rfl

namespace Pipeline

/-- How far the parts have come when the shutdown has come so far, whatever the sink does. -/
structure Staged (p : Pipeline) : Prop where
  done : ∀ k < p.closing.awaited p.outlets.workers.size, isDone (p.outlets.worker k) = true
  cancelled : p.closing.isHalting = true → p.outlets.cancelled = true
  shut : p.closing.isShut = true → p.queue.closed = true ∧ p.queue.items = []
  rested : p.closing.isLast = true → p.load.isOver = true

/-- How far the parts have come when the shutdown has come so far. -/
structure Ordered (p : Pipeline) (g : GeneratorSettings) : Prop where
  settings : p.settings = g
  steady : p.outlets.sink.Steady
  crew : p.outlets.workers.size ≤ g.sinkWorkers
  fresh : p.load.started = false → p.load.workers.size = 0 ∧ p.outlets.workers.size = 0
  done : ∀ k < p.closing.awaited p.outlets.workers.size, isDone (p.outlets.worker k) = true
  cancelled : p.closing.isHalting = true → p.outlets.cancelled = true
  shut : p.closing.isShut = true → p.queue.closed = true ∧ p.queue.items = []
  rested : p.closing.isLast = true → p.load.isOver = true

variable {p p' : Pipeline} {g : GeneratorSettings}

/-- The shutdown has come no further, and the parts keep what they have reached. -/
lemma Staged.kept (h : p.Staged) (hc : p'.closing = p.closing)
    (ho : p.outlets.SameCrew p'.outlets)
    (hq : p.closing.isShut = true → p'.queue.closed = true ∧ p'.queue.items = [])
    (hv : p.load.isOver = true → p'.load.isOver = true) : p'.Staged where
  done k hk := by
    rw [hc, ho.size] at hk
    have hd := h.done k hk
    rw [ho.done k hd]
    exact hd
  cancelled := by rw [hc, ho.cancelled]; exact h.cancelled
  shut := by rw [hc]; exact hq
  rested hx := hv (h.rested (hc ▸ hx))

/-! ### The shutdown -/

lemma Frame.crew (h : p.Frame p') : p.load.SameCrew p'.load :=
  ⟨h.load.started, congrArg Array.size h.load.workers⟩

/-- The shutdown has come to `c`, with the sink workers as in `o`. -/
lemma Frame.staged (hf : p.Frame p') {c : Closing} {o : Outlets} (hc : p'.closing = c)
    (ho : p'.outlets = o) (hd : ∀ k < c.awaited o.workers.size, isDone (o.worker k) = true)
    (hx : c.isHalting = true → o.cancelled = true)
    (hq : c.isShut = true → p'.queue.closed = true ∧ p'.queue.items = [])
    (hv : c.isLast = true → p.load.isOver = true) : p'.Staged := by
  subst hc ho
  exact ⟨hd, hx, hq, fun hl => hf.load.rested (hv hl)⟩

lemma abort_size (o : Outlets) (k : Nat) : (o.abort k).workers.size = o.workers.size := by
  simp [Outlets.abort, Outlets.setWorker]

lemma isDone_abort (o : Outlets) (k : Nat) {j : Nat} (h : j = k ∨ isDone (o.worker j) = true) :
    isDone ((o.abort k).worker j) = true := by
  by_cases hj : k = j
  · subst hj
    by_cases hk : k < o.workers.size
    · rw [Outlets.abort, Outlets.worker_setWorker_self hk]
      rfl
    · have : o.workers.size ≤ k := by omega
      simp [Outlets.worker, Outlets.abort, Outlets.setWorker, this, isDone]
  · rw [Outlets.abort, Outlets.worker_setWorker_ne hj]
    exact h.resolve_left (Ne.symm hj)

/-- One more worker has come to an end. -/
lemma done_succ {o : Outlets} {k : Nat} (hd : ∀ j < k, isDone (o.worker j) = true)
    (hk : isDone (o.worker k) = true) : ∀ j < k + 1, isDone (o.worker j) = true := by
  intro j hj
  rcases Nat.lt_succ_iff_lt_or_eq.mp hj with hj | rfl
  · exact hd j hj
  · exact hk

lemma Staged.close (h : p.Staged) (hf : p.Frame p') (hcl : p.Closes p') : p'.Staged := by
  have hdone : ∀ {c : Closing}, p.closing = c →
      ∀ j < c.awaited p.outlets.workers.size, isDone (p.outlets.worker j) = true :=
    fun hc => hc ▸ h.done
  have hx : ∀ {c : Closing}, p.closing = c → c.isHalting = true → p.outlets.cancelled = true :=
    fun hc hh => h.cancelled (hc ▸ hh)
  have hshut : ∀ {c : Closing}, p.closing = c → c.isShut = true → p'.queue = p.queue →
      p'.queue.closed = true ∧ p'.queue.items = [] :=
    fun hc hs hq => hq ▸ h.shut (hc ▸ hs)
  cases hcl with
  | join _ _ now ho => exact hf.staged now ho nofun nofun nofun nofun
  | tell _ _ now ho => exact hf.staged now ho nofun (fun _ => rfl) nofun nofun
  | pause _ _ _ now same => exact hf.staged now same.1 nofun nofun nofun nofun
  | look _ _ _ now same => exact hf.staged now same.1 nofun nofun nofun nofun
  | turn k was now same =>
    have hd := hdone was
    exact hf.staged now same.1 hd (fun _ => hx was rfl) nofun nofun
  | done k was all now same =>
    have hall : ∀ j < p.outlets.workers.size, isDone (p.outlets.worker j) = true :=
      fun j hj => hdone was j (Nat.lt_of_lt_of_le hj all)
    exact hf.staged now same.1 hall (fun _ => hx was rfl) nofun nofun
  | next k limit was now ended same =>
    have hd := done_succ (hdone was) ended
    exact hf.staged now same.1 hd (fun _ => hx was rfl) nofun nofun
  | abort k limit was now busy late ho =>
    have hd : ∀ j < k + 1, isDone ((p.outlets.abort k).worker j) = true :=
      done_succ (fun j hj => isDone_abort _ _ (.inr (hdone was j hj))) (isDone_abort _ _ (.inl rfl))
    exact hf.staged now ho hd (fun _ => hx was rfl) nofun nofun
  | clear was now ho hq =>
    have hd := hdone was
    exact hf.staged now ho hd (fun _ => hx was rfl) (fun _ => by rw [hq]; exact ⟨rfl, rfl⟩) nofun
  | rejoin was now ended same =>
    have hd := hdone was
    exact hf.staged now same.1 hd (fun _ => hx was rfl) (fun _ => hshut was rfl same.2.1)
      (fun _ => ended)
  | leave was now same =>
    have hd := hdone was
    exact hf.staged now same.1 hd (fun _ => hx was rfl) (fun _ => hshut was rfl same.2.1)
      (fun _ => h.rested (by rw [was]; rfl))

/-- The shutdown neither replaces the sink nor hires sink workers. -/
lemma Closes.sink_size (hcl : p.Closes p') :
    p'.outlets.sink = p.outlets.sink ∧ p'.outlets.workers.size = p.outlets.workers.size := by
  cases hcl with
  | join _ _ _ ho | clear _ _ ho => rw [ho]; exact ⟨rfl, rfl⟩
  | tell _ _ _ ho => rw [ho]; exact ⟨rfl, rfl⟩
  | abort _ _ _ _ _ _ ho => rw [ho]; exact ⟨rfl, abort_size _ _⟩
  | pause _ _ _ _ same | look _ _ _ _ same | turn _ _ _ same | done _ _ _ _ same
  | next _ _ _ _ _ same | rejoin _ _ _ same | leave _ _ same => rw [same.1]; exact ⟨rfl, rfl⟩

/-! ### All acts -/

/-- The acts change no more than a part of a pipeline that the order does not speak of. -/
lemma Staged.aside (h : p.Staged) (hc : p'.closing = p.closing) (ho : p'.outlets = p.outlets)
    (hq : p'.queue = p.queue) (hv : p.load.isOver = true → p'.load.isOver = true) : p'.Staged :=
  h.kept hc (ho ▸ p.outlets.crew_refl) (hq ▸ h.shut) hv

lemma Staged.load (h : p.Staged) (m : Load.Move) :
    { p with load := p.load.perform m }.Staged := by
  have hp := p.load.perform_passes m
  refine h.kept rfl p.outlets.crew_refl (fun hs => ?_) fun hv => ?_
  · obtain ⟨hc, hi⟩ := h.shut hs
    have hz : p.load.fates m .sent = 0 := hp.shut hc
    have hq : ((p.load.perform m).sim.output.items : Multiset Event) = p.queue.items + 0 :=
      hz ▸ hp.queue
    rw [hi] at hq
    exact ⟨hp.closed.trans hc, Multiset.coe_eq_zero _ |>.mp hq⟩
  · rw [Load.perform_of_isOver hv]
    exact hv

lemma Staged.outlets (h : p.Staged) (m : Outlets.Move) :
    (let r := p.outlets.perform m p.load.sim p.load.instant
    { p with outlets := r.1, load := { p.load with sim := r.2 } }).Staged := by
  refine h.kept rfl (p.outlets.perform_crew _ _ m) (fun hs => ?_) (fun hv => hv)
  have hx := h.cancelled (Closing.isHalting_of_isShut hs)
  have hq := Outlets.perform_output hx p.load.sim p.load.instant m
  simp only [queue]
  rw [hq]
  exact h.shut hs

lemma Staged.perform (h : p.Staged) (m : Move) : (p.perform m).Staged := by
  unfold Pipeline.perform
  split
  · exact h
  next hen =>
  rw [Bool.not_eq_true, Bool.not_eq_false'] at hen
  cases m with
  | close =>
    obtain ⟨hf, hcl⟩ := onClose_spec hen
    exact h.close hf hcl
  | load m => exact h.load m
  | outlet m => exact h.outlets m
  | sweep => exact h.aside rfl rfl (p.load.sim.sweep_undisturbed _).output id
  | armSweeper | endSweeper | armReporter | report | endReporter => exact h.aside rfl rfl rfl id

/-- **The shutdown keeps its order** in every act. -/
lemma Staged.act (h : p.Staged) (a : Act) : (p.act a).Staged := by
  cases a with
  | start =>
    rcases p.act_start_cases with he | ⟨hc, hs⟩
    · rwa [he]
    · have hc' : (p.act .start).closing = .unasked := hs.closing.trans hc
      constructor <;> rw [hc'] <;> nofun
  | stop =>
    rcases p.act_stop_cases with he | ⟨⟨hf, hq, ho, -⟩, hc⟩
    · rwa [he]
    · exact h.aside hc ho hq hf.load.rested
  | shutdown =>
    rcases p.act_shutdown_cases with he | ⟨-, ⟨hf, -, ho, -⟩, deadline, hd⟩
    · rwa [he]
    · exact hf.staged hd ho nofun nofun nofun nofun
  | pass span => exact h.aside rfl rfl rfl id
  | setClock wall => exact h.aside rfl rfl rfl id
  | turn sink => exact ⟨h.done, h.cancelled, h.shut, h.rested⟩
  | move m => exact h.perform m

lemma Staged.run (h : p.Staged) (acts : List Act) : (p.run acts).Staged := by
  induction acts generalizing p with
  | nil => exact h
  | cons a acts ih => exact ih (h.act a)

/-! ### The crews -/

lemma Ordered.staged (h : p.Ordered g) : p.Staged := ⟨h.done, h.cancelled, h.shut, h.rested⟩

/-- The crews are what they were, whatever stage has been reached. -/
lemma Ordered.reached (h : p.Ordered g) (hp : p'.Staged) (hg : p'.settings = p.settings)
    (hs : p'.outlets.sink = p.outlets.sink)
    (hn : p'.outlets.workers.size = p.outlets.workers.size) (hl : p.load.SameCrew p'.load) :
    p'.Ordered g where
  settings := hg.trans h.settings
  steady := by rw [hs]; exact h.steady
  crew := by rw [hn]; exact h.crew
  fresh := by rw [hl.1, hl.2, hn]; exact h.fresh
  done := hp.done
  cancelled := hp.cancelled
  shut := hp.shut
  rested := hp.rested

lemma Ordered.perform (h : p.Ordered g) (m : Move) : (p.perform m).Ordered g := by
  have hp := h.staged.perform m
  cases hen : p.enabled m with
  | false => simpa [Pipeline.perform, hen] using h
  | true =>
    simp only [Pipeline.perform, hen, Bool.not_true, Bool.false_eq_true, if_false] at hp ⊢
    cases m with
    | close =>
      obtain ⟨hf, hcl⟩ := onClose_spec hen
      exact h.reached hp hf.settings hcl.sink_size.1 hcl.sink_size.2 hf.crew
    | load m => exact h.reached hp rfl rfl rfl (p.load.perform_crew m)
    | outlet m =>
      have ho := p.outlets.perform_crew p.load.sim p.load.instant m
      exact h.reached hp rfl ho.sink ho.size ⟨rfl, rfl⟩
    | sweep | armSweeper | endSweeper | armReporter | report | endReporter =>
      exact h.reached hp rfl rfl rfl ⟨rfl, rfl⟩

/-- **The order and the crews are kept** in every act, as long as the sink answers. -/
lemma Ordered.act (h : p.Ordered g) {a : Act} (ha : ∀ s, a = .turn s → s.Steady) :
    (p.act a).Ordered g := by
  have hp := h.staged.act a
  cases a with
  | start =>
    rcases p.act_start_cases with he | ⟨-, hs⟩
    · rwa [he]
    · exact
        { settings := hs.settings.trans h.settings
          steady := by rw [hs.outlets]; exact h.steady
          crew := by rw [hs.outlets, h.settings]; simp [Outlets.start]
          fresh := by rw [hs.started]; nofun
          done := hp.done
          cancelled := hp.cancelled
          shut := hp.shut
          rested := hp.rested }
  | stop =>
    rcases p.act_stop_cases with he | ⟨⟨hf, -, ho, -⟩, -⟩
    · rwa [he]
    · exact h.reached hp hf.settings (by rw [ho]) (by rw [ho]) hf.crew
  | shutdown =>
    rcases p.act_shutdown_cases with he | ⟨-, ⟨hf, -, ho, -⟩, -⟩
    · rwa [he]
    · exact h.reached hp hf.settings (by rw [ho]) (by rw [ho]) hf.crew
  | pass span => exact h.reached hp rfl rfl rfl ⟨rfl, rfl⟩
  | setClock wall => exact h.reached hp rfl rfl rfl ⟨rfl, rfl⟩
  | turn sink => exact { h with steady := ha sink rfl }
  | move m => exact h.perform m

end Pipeline

end ShopTraffic
