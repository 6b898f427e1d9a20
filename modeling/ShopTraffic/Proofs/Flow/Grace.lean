import ShopTraffic.Proofs.Flow.Order

/-!
What a sink that answers in time saves. When each worker has its answer before the time is up that
the shutdown grants it, no worker is ended with an event in its hands.
-/

namespace ShopTraffic

namespace Load

variable {l : Load}

@[simp] lemma stepped_instant (w left made : Nat) (o : Outcome) :
    (l.stepped w left made o).instant = l.instant := by
  cases o <;> rfl

@[simp] lemma onBegin_instant (w left made : Nat) :
    (l.onBegin w left made).instant = l.instant := by
  unfold onBegin
  split
  · exact stepped_instant _ _ _ _
  · rfl

@[simp] lemma onSend_instant (w left made : Nat) (p : Pending) :
    (l.onSend w left made p).instant = l.instant := by
  unfold onSend
  split
  · exact stepped_instant _ _ _ _
  · rfl

@[simp] lemma onResume_instant (w left made : Nat) (p : Pending) :
    (l.onResume w left made p).instant = l.instant := by
  unfold onResume
  split
  · exact stepped_instant _ _ _ _
  · rfl

/-- The moves of the load take no time. -/
lemma perform_instant (l : Load) (m : Move) : (l.perform m).instant = l.instant := by
  unfold perform
  split
  · rfl
  cases m with
  | arm | endTicker | take | endWorker => rfl
  | tick | dispatch | conclude => dsimp only; split <;> rfl
  | begin | send | resume => dsimp only; split <;> simp

end Load

namespace Outlets

variable {o : Outlets} {k : Nat}

/-- A sink worker that was doing `x` is doing `y` after a move. An event is only taken before
workers are told to end, and no answer comes before the event is taken. -/
def Turns (o : Outlets) (now : Instant) (x y : Outlet) : Prop :=
  y = x ∨ y = .idle ∨ y = .ended ∨ (∃ reason, y = .failed reason) ∨
    o.cancelled = false ∧ ∃ e a, y = .publishing e a ∧ ∀ due r, a = some (due, r) → now ≤ due

lemma turns_setWorker {now : Instant} {y : Outlet} (h : ∀ x, o.Turns now x y) (j : Nat) :
    o.Turns now (o.worker j) ((o.setWorker k y).worker j) := by
  by_cases hj : k = j
  · subst hj
    by_cases hk : k < o.workers.size
    · rw [worker_setWorker_self hk]
      exact h _
    · have : o.workers.size ≤ k := by omega
      exact .inl (by simp [worker, setWorker, this])
  · exact .inl (worker_setWorker_ne hj y)

lemma onTake_turns (hc : o.cancelled = false) (now : Instant) (e : Event) (j : Nat) :
    o.Turns now (o.worker j) ((o.onTake now k e).worker j) := by
  unfold onTake
  refine turns_setWorker (fun x => ?_) j
  split
  · refine .inr (.inr (.inr (.inr ⟨hc, e, _, rfl, fun due r h => ?_⟩)))
    obtain ⟨rfl, -⟩ := Prod.mk.inj (Option.some.inj h)
    exact Nat.le_add_right now _
  · exact .inr (.inr (.inr (.inr ⟨hc, e, none, rfl, nofun⟩)))
  · exact .inr (.inr (.inr (.inl ⟨_, rfl⟩)))

lemma perform_turns (o : Outlets) (sim : Simulation) (now : Instant) (m : Move) (j : Nat) :
    o.Turns now (o.worker j) ((o.perform m sim now).1.worker j) := by
  unfold perform
  split
  · exact .inl rfl
  next hen =>
  rw [Bool.not_eq_true, Bool.not_eq_false'] at hen
  cases m with
  | take k =>
    have hc : o.cancelled = false := by
      have hw := idle_of_take hen
      simp only [enabled, hw, Bool.and_eq_true, Bool.not_eq_true'] at hen
      exact hen.1
    dsimp only
    split
    · exact onTake_turns hc now _ j
    · exact .inl rfl
  | answer k =>
    dsimp only
    split
    · next result _ =>
      cases result <;> exact turns_setWorker (o := o) (fun _ => .inr (.inl rfl)) j
    · exact .inl rfl
  | finish k => exact turns_setWorker (fun _ => .inr (.inr (.inl rfl))) j

end Outlets

namespace Pipeline

/-- Time does not run past an answer that a worker has not dealt with. -/
def Punctual (p : Pipeline) : Act → Prop
  | .pass span => ∀ k e due r, p.outlets.worker k = .publishing e (some (due, r)) →
      p.instant + span ≤ wholeMs due
  | _ => True

/-- The sink answers a worker before the time is up that the shutdown grants the worker. -/
def Prompt (p : Pipeline) : Act → Prop
  | .move .close => ∀ k e a, p.closing = .halting k → p.outlets.worker k = .publishing e a →
      ∃ due r, a = some (due, r) ∧ wholeMs due < wholeMs (p.instant + grace)
  | _ => True

def InTime (p : Pipeline) (a : Act) : Prop := p.Punctual a ∧ p.Prompt a

/-- No answer is overdue, the worker that is waited for has its answer in time, and no worker has
been ended with an event in its hands. -/
structure Timely (p : Pipeline) : Prop where
  pending : ∀ k e due r, p.outlets.worker k = .publishing e (some (due, r)) →
    p.instant ≤ wholeMs due
  awaited : ∀ k limit e a, p.closing = .awaiting k limit →
    p.outlets.worker k = .publishing e a → ∃ due r, a = some (due, r) ∧ wholeMs due < wholeMs limit
  freed : ∀ k e, p.outlets.worker k ≠ .aborted (some e)

variable {p p' : Pipeline} {g : GeneratorSettings}

/-- Neither time nor the sink workers have gone on. -/
lemma Timely.kept (h : p.Timely) (hi : p'.instant = p.instant)
    (ho : p'.outlets.workers = p.outlets.workers)
    (hc : ∀ k limit, p'.closing = .awaiting k limit → p.closing = .awaiting k limit) :
    p'.Timely := by
  have hw : ∀ k, p'.outlets.worker k = p.outlets.worker k := fun k => by
    unfold Outlets.worker
    rw [ho]
  exact
    { pending := fun k e due r hk => hi ▸ h.pending k e due r (hw k ▸ hk)
      awaited := fun k limit e a hk hp => h.awaited k limit e a (hc k limit hk) (hw k ▸ hp)
      freed := fun k e => hw k ▸ h.freed k e }

lemma Timely.outlets (h : p.Timely) (ho : p.Ordered g) (m : Outlets.Move) :
    (let r := p.outlets.perform m p.load.sim p.load.instant
    { p with outlets := r.1, load := { p.load with sim := r.2 } }).Timely := by
  have ht := p.outlets.perform_turns p.load.sim p.load.instant m
  exact
    { pending := fun k e due r hk => by
        rcases ht k with he | he | he | ⟨reason, he⟩ | ⟨-, e', a, he, hd⟩
        all_goals dsimp only at hk; rw [he] at hk
        · exact h.pending k e due r hk
        · cases hk
        · cases hk
        · cases hk
        · obtain ⟨rfl, rfl⟩ := Outlet.publishing.inj hk
          exact (hd due r rfl).trans (le_wholeMs due)
      awaited := fun k limit e a hc hk => by
        rcases ht k with he | he | he | ⟨reason, he⟩ | ⟨hn, -⟩
        · dsimp only at hk
          rw [he] at hk
          exact h.awaited k limit e a hc hk
        · cases he.symm.trans hk
        · cases he.symm.trans hk
        · cases he.symm.trans hk
        · have hx := ho.cancelled (by rw [hc]; rfl)
          rw [hn] at hx
          cases hx
      freed := fun k e hk => by
        rcases ht k with he | he | he | ⟨reason, he⟩ | ⟨-, e', a, he, -⟩
        · exact h.freed k e (he.symm.trans hk)
        all_goals cases he.symm.trans hk }

/-- A worker that is ended by force while nothing is in its hands takes nothing with it. -/
lemma Timely.abort {k : Nat} (h : p.Timely) (hk : p.outlets.worker k = .idle)
    (hi : p'.instant = p.instant) (ho : p'.outlets = p.outlets.abort k)
    (hc : ∀ j limit, p'.closing ≠ .awaiting j limit) : p'.Timely := by
  have hw : ∀ j, p'.outlets.worker j = p.outlets.worker j ∨
      p'.outlets.worker j = .aborted none := by
    intro j
    rw [ho, Outlets.abort, hk]
    by_cases hj : k = j
    · subst hj
      by_cases hs : k < p.outlets.workers.size
      · exact .inr (Outlets.worker_setWorker_self hs _)
      · have : p.outlets.workers.size ≤ k := by omega
        exact .inl (by simp [Outlets.worker, Outlets.setWorker, this])
    · exact .inl (Outlets.worker_setWorker_ne hj _)
  exact
    { pending := fun j e due r hj => by
        rcases hw j with he | he
        · exact hi ▸ h.pending j e due r (he ▸ hj)
        · cases he.symm.trans hj
      awaited := fun j limit e a hj => absurd hj (hc j limit)
      freed := fun j e hj => by
        rcases hw j with he | he
        · exact h.freed j e (he.symm.trans hj)
        · cases he.symm.trans hj }

lemma Timely.close (h : p.Timely) (hf : p.Frame p') (hcl : p.Closes p')
    (hp : p.Prompt (.move .close)) : p'.Timely := by
  have hi : p'.instant = p.instant := hf.load.instant
  cases hcl with
  | join _ _ now ho => exact h.kept hi (by rw [ho]) (by rw [now]; nofun)
  | tell _ _ now ho => exact h.kept hi (by rw [ho]; rfl) (by rw [now]; nofun)
  | pause _ _ _ now same => exact h.kept hi (by rw [same.1]) (by rw [now]; nofun)
  | look _ _ _ now same => exact h.kept hi (by rw [same.1]) (by rw [now]; nofun)
  | turn k was now same =>
    exact
      { pending := by rw [hi, same.1]; exact h.pending
        awaited := fun j limit e a hj hw => by
          obtain ⟨rfl, rfl⟩ := Closing.awaiting.inj (now.symm.trans hj)
          exact hp k e a was (same.1 ▸ hw)
        freed := by rw [same.1]; exact h.freed }
  | done _ _ _ now same => exact h.kept hi (by rw [same.1]) (by rw [now]; nofun)
  | next _ _ _ now _ same => exact h.kept hi (by rw [same.1]) (by rw [now]; nofun)
  | abort k limit was now busy late ho =>
    cases hw : p.outlets.worker k with
    | idle => exact h.abort hw hi ho (by rw [now]; nofun)
    | publishing e a =>
      -- The answer is due before the time is up, so time has not come so far.
      obtain ⟨due, r, rfl, hd⟩ := h.awaited k limit e a was hw
      have hi := h.pending k e due r hw
      exact absurd (hi.trans_lt hd) (Nat.not_lt.mpr late)
    | ended | failed | aborted =>
      rw [hw] at busy
      cases busy
  | clear _ now ho => exact h.kept hi (by rw [ho]) (by rw [now]; nofun)
  | rejoin _ now _ same => exact h.kept hi (by rw [same.1]) (by rw [now]; nofun)
  | leave _ now same => exact h.kept hi (by rw [same.1]) (by rw [now]; nofun)

lemma Timely.perform (h : p.Timely) (ho : p.Ordered g) {m : Move} (hp : p.Prompt (.move m)) :
    (p.perform m).Timely := by
  unfold Pipeline.perform
  split
  · exact h
  next hen =>
  rw [Bool.not_eq_true, Bool.not_eq_false'] at hen
  cases m with
  | close =>
    obtain ⟨hf, hcl⟩ := onClose_spec hen
    exact h.close hf hcl hp
  | load m => exact h.kept (p.load.perform_instant m) rfl fun _ _ => id
  | outlet m => exact h.outlets ho m
  | armSweeper | sweep | endSweeper | armReporter | report | endReporter =>
    exact h.kept rfl rfl fun _ _ => id

lemma Timely.start (hs : p.Starts p') (hc : p.closing = .unasked) : p'.Timely := by
  have hc' : p'.closing = .unasked := hs.closing.trans hc
  have hw : ∀ k, p'.outlets.worker k = .idle ∨ p'.outlets.worker k = .ended := by
    intro k
    rw [hs.outlets]
    unfold Outlets.worker Outlets.start
    dsimp only
    rw [Array.getElem?_replicate]
    split
    · exact .inl rfl
    · exact .inr rfl
  exact
    { pending := fun k e due r hk => by
        rcases hw k with he | he <;> cases he.symm.trans hk
      awaited := fun k limit e a hk => by cases hc'.symm.trans hk
      freed := fun k e hk => by rcases hw k with he | he <;> cases he.symm.trans hk }

/-- **Nobody is ended with an event in its hands** by an act in time. -/
lemma Timely.act (h : p.Timely) (ho : p.Ordered g) {a : Act} (ha : p.InTime a) :
    (p.act a).Timely := by
  cases a with
  | start =>
    rcases p.act_start_cases with he | ⟨hc, hs⟩
    · rwa [he]
    · exact .start hs hc
  | stop =>
    rcases p.act_stop_cases with he | ⟨hs, hc⟩
    · rwa [he]
    · exact h.kept hs.frame.load.instant (congrArg _ hs.outlets) fun _ _ hk => hc ▸ hk
  | shutdown =>
    rcases p.act_shutdown_cases with he | ⟨-, hs, deadline, hd⟩
    · rwa [he]
    · exact h.kept hs.frame.load.instant (congrArg _ hs.outlets)
        fun _ _ hk => by cases hd.symm.trans hk
  | pass span => exact { h with pending := fun k e due r hk => ha.1 k e due r hk }
  | setClock wall | turn sink => exact h.kept rfl rfl fun _ _ => id
  | move m => exact h.perform ho ha.2

lemma Timely.run (h : p.Timely) (ho : p.Ordered g) {acts : List Act}
    (hs : ∀ s, .turn s ∈ acts → s.Steady) (ha : Along Pipeline.act InTime p acts) :
    (p.run acts).Timely := by
  induction acts generalizing p with
  | nil => exact h
  | cons a acts ih =>
    exact ih (h.act ho ha.1) (ho.act fun s he => hs s (he ▸ List.mem_cons_self))
      (fun s he => hs s (List.mem_cons_of_mem _ he)) ha.2

end Pipeline

end ShopTraffic
