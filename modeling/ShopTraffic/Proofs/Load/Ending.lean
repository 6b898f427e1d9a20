import ShopTraffic.Proofs.Load.Tickets

/-!
How a load comes to its end. Once it has been told to stop and the queue is closed, each move of the
ticker or of a worker brings the end nearer, and while not all of them have ended one of them can
move. So there is a way out for all: the ticker and a worker without a ticket just end, and a worker
in the middle of a batch or waiting for a slot is refused by the queue and gives up its batch.
-/

namespace ShopTraffic

/-- The moves that a worker can still make when the queue refuses everything. -/
def Worker.toGo : Worker → Nat
  | ended => 0
  | idle => 1
  | running left _ => 2 * left + 2
  | holding _ _ _ | waiting _ _ _ => 3

def Ticker.toGo : Ticker → Nat
  | ended | failed => 0
  | fresh | waiting _ | dispatching _ _ => 1

namespace Load

def toGo (l : Load) : Nat := l.ticker.toGo + (l.workers.toList.map Worker.toGo).sum

/-- Every worker that waits has its place in the line of senders. -/
def InLine (l : Load) : Prop :=
  ∀ w left made p, l.worker w = .waiting left made p → w ∈ l.senders

/-- The load is to end, and the queue does not hold it up. -/
structure Ending (l : Load) : Prop where
  stopping : l.stopping = true
  closed : l.sim.output.closed = true
  inLine : l.InLine

variable {l l' : Load} {w : Nat} {y : Worker} {m : Move}

/-! ### The line of senders -/

lemma InLine.same (h : l.InLine) (hw : l'.workers = l.workers) (hs : l'.senders = l.senders) :
    l'.InLine := by
  intro v left made p hv
  rw [worker, hw] at hv
  rw [hs]
  exact h v left made p hv

lemma InLine.set (h : l.InLine) (hx : l.worker w ≠ .ended)
    (hw : l'.workers = l.workers.set! w y) (hs : ∀ v, v ≠ w → v ∈ l.senders → v ∈ l'.senders)
    (hy : ∀ left made p, y = .waiting left made p → w ∈ l'.senders) : l'.InLine := by
  obtain ⟨hself, hne⟩ := worker_of_set hx hw
  intro v left made p hv
  by_cases hvw : v = w
  · subst hvw
    exact hy left made p (hself.symm.trans hv)
  · rw [hne v hvw] at hv
    exact hs v hvw (h v left made p hv)

/-- A worker that does not wait has changed, and no other has left the line. -/
lemma InLine.setWorker (h : l.InLine) (hx : l.worker w ≠ .ended)
    (hw : l'.workers = l.workers.set! w y) (hs : l'.senders = l.senders)
    (hy : ∀ left made p, y ≠ .waiting left made p) : l'.InLine :=
  h.set hx hw (fun _ _ hv => hs ▸ hv) fun left made p e => absurd e (hy left made p)

lemma stepped_workers (l : Load) (w left made : Nat) (o : Outcome) :
    ∃ left', (l.stepped w left made o).workers = l.workers.set! w (.running left' (made + 1)) ∧
      (l.stepped w left made o).senders = l.senders ∧ left' ≤ left := by
  cases o
  · exact ⟨left, rfl, rfl, Nat.le_refl _⟩
  · exact ⟨left, rfl, rfl, Nat.le_refl _⟩
  · exact ⟨left, rfl, rfl, Nat.le_refl _⟩
  · exact ⟨0, rfl, rfl, Nat.zero_le _⟩

lemma InLine.perform (h : l.InLine) (m : Move) : (l.perform m).InLine := by
  unfold Load.perform
  split
  · exact h
  next hen =>
  rw [Bool.not_eq_true, Bool.not_eq_false'] at hen
  cases m with
  | arm | endTicker => exact h.same rfl rfl
  | tick | dispatch =>
    dsimp only
    split
    · exact h.same rfl rfl
    · exact h
  | take w =>
    have hx : l.worker w ≠ .ended := by rw [idle_of_take hen]; exact Worker.noConfusion
    exact h.setWorker hx rfl rfl fun _ _ _ => Worker.noConfusion
  | begin w =>
    dsimp only
    split
    · next left made hw =>
      have hx : l.worker w ≠ .ended := by rw [hw]; exact Worker.noConfusion
      unfold onBegin
      split
      · next sim o _ =>
        obtain ⟨left', hset, hs, -⟩ := stepped_workers { l with sim } w left made o
        exact h.setWorker hx hset hs fun _ _ _ => Worker.noConfusion
      · exact h.setWorker hx rfl rfl fun _ _ _ => Worker.noConfusion
    · exact h
  | send w =>
    dsimp only
    split
    · next left made p hw =>
      have hx : l.worker w ≠ .ended := by rw [hw]; exact Worker.noConfusion
      unfold onSend
      split
      · next sim o _ =>
        obtain ⟨left', hset, hs, -⟩ := stepped_workers { l with sim } w left made o
        exact h.setWorker hx hset hs fun _ _ _ => Worker.noConfusion
      · refine h.set hx rfl (fun v _ hv => List.mem_append_left _ hv) fun _ _ _ _ => ?_
        exact List.mem_append_right _ (List.mem_singleton_self w)
    · exact h
  | resume w =>
    dsimp only
    split
    · next left made p hw =>
      have hx : l.worker w ≠ .ended := by rw [hw]; exact Worker.noConfusion
      unfold onResume
      split
      · next sim o _ =>
        obtain ⟨left', hset, hs, -⟩ :=
          stepped_workers { l with sim, senders := l.senders.erase w } w left made o
        exact h.set hx hset (fun v hv hm => hs ▸ (List.mem_erase_of_ne hv).mpr hm)
          fun _ _ _ => Worker.noConfusion
      · exact h
    · exact h
  | conclude w =>
    dsimp only
    split
    · next left made hw =>
      have hx : l.worker w ≠ .ended := by rw [hw]; exact Worker.noConfusion
      exact h.setWorker hx rfl rfl fun _ _ _ => Worker.noConfusion
    · exact h
  | endWorker w =>
    have hx : l.worker w ≠ .ended := by rw [idle_of_endWorker hen]; exact Worker.noConfusion
    exact h.setWorker hx rfl rfl fun _ _ _ => Worker.noConfusion

/-! ### The way out -/

lemma Effect.stopping (h : l.Effect m l') : l'.stopping = l.stopping := by
  cases h <;> rfl

lemma toGo_of_ticker (hw : l'.workers = l.workers) (ht : l'.ticker.toGo < l.ticker.toGo) :
    l'.toGo < l.toGo := by
  rw [toGo, toGo, hw]
  omega

lemma toGo_of_worker (hx : l.worker w ≠ .ended) (ht : l'.ticker = l.ticker)
    (hw : l'.workers = l.workers.set! w y) (hy : y.toGo < (l.worker w).toGo) :
    l'.toGo < l.toGo := by
  have hsum : ((l.workers.set! w y).toList.map Worker.toGo).sum + (l.worker w).toGo =
      (l.workers.toList.map Worker.toGo).sum + y.toGo := sum_map_set (getElem?_worker rfl hx) y
  rw [toGo, toGo, hw, ht]
  omega

/-- A closed queue refuses the event of a worker, who gives up the batch. -/
lemma stepped_toGo {sim : Simulation} {senders : List Nat} {left made : Nat}
    (hy : (l.worker w).toGo = 3) :
    ({ l with sim, senders }.stepped w left made .queueClosed).toGo < l.toGo := by
  have hx : l.worker w ≠ .ended := fun e => by
    rw [e] at hy
    cases hy
  have hless : (Worker.running 0 (made + 1)).toGo < (l.worker w).toGo := by
    rw [hy]
    exact Nat.lt_succ_self 2
  exact toGo_of_worker hx rfl rfl hless

/-- A worker that begins a step has one less to begin. -/
lemma onBegin_toGo {left made : Nat} (hw : l.worker w = .running (left + 1) made) :
    (l.onBegin w left made).toGo < l.toGo := by
  have hx : l.worker w ≠ .ended := by rw [hw]; exact Worker.noConfusion
  have hrunning : (Worker.running left (made + 1)).toGo < (l.worker w).toGo := by
    rw [hw, Worker.toGo, Worker.toGo]
    omega
  unfold onBegin
  split
  · next sim o ho =>
    rcases Simulation.begin_ends (congrArg Prod.snd ho) with rfl | rfl
    · exact toGo_of_worker hx rfl rfl hrunning
    · exact toGo_of_worker hx rfl rfl hrunning
  · next sim p _ =>
    refine toGo_of_worker (y := .holding left made p) hx rfl rfl ?_
    rw [hw, Worker.toGo, Worker.toGo]
    omega

lemma Ending.onSend_toGo (h : l.Ending) {left made : Nat} {p : Pending}
    (hw : l.worker w = .holding left made p) : (l.onSend w left made p).toGo < l.toGo := by
  have hsend : l.sim.send p = ((l.sim.finish p false).1, .finished .queueClosed) := by
    rcases l.sim.send_cases p with ⟨-, e⟩ | ⟨ho, -⟩ | ⟨ho, -⟩
    · exact e
    all_goals cases h.closed.symm.trans ho
  simp only [onSend, hsend]
  exact stepped_toGo (by rw [hw, Worker.toGo])

lemma Ending.onResume_toGo (h : l.Ending) {left made : Nat} {p : Pending}
    (hw : l.worker w = .waiting left made p) : (l.onResume w left made p).toGo < l.toGo := by
  have hresume : l.sim.resume? p =
      some (({ l.sim with output := l.sim.output.abandon }.finish p false).1, .queueClosed) := by
    unfold Simulation.resume?
    rw [if_pos h.closed]
    rfl
  simp only [onResume, hresume]
  exact stepped_toGo (by rw [hw, Worker.toGo])

/-- **Every move that is possible brings the end nearer.** -/
lemma Ending.toGo_lt (h : l.Ending) (hen : l.enabled m = true) :
    (l.perform m).toGo < l.toGo := by
  have hstop := h.stopping
  unfold Load.perform
  simp only [hen, Bool.not_true, Bool.false_eq_true, if_false]
  cases m with
  | arm =>
    obtain ⟨hf, ht⟩ : l.ticker = .fresh ∧ l.tick = 0 := by simpa [enabled, hstop] using hen
    refine toGo_of_ticker rfl ?_
    rw [if_pos ht, hf]
    exact Nat.one_pos
  | endTicker =>
    obtain ⟨he, hf⟩ : l.ticker ≠ .ended ∧ l.ticker ≠ .failed := by
      simpa [enabled, hstop] using hen
    refine toGo_of_ticker rfl ?_
    cases ht : l.ticker with
    | ended => exact absurd ht he
    | failed => exact absurd ht hf
    | fresh | waiting | dispatching => exact Nat.one_pos
  -- no tick, ticket or batch begins any more
  | tick | dispatch =>
    simp only [enabled, hstop] at hen
    split at hen <;> simp at hen
  | take w =>
    simp only [enabled, hstop] at hen
    split at hen <;> simp at hen
  | begin w =>
    dsimp only
    rcases hw : l.worker w with _ | ⟨_ | left, made⟩ | _ | _ | _
    case running.succ => exact onBegin_toGo hw
    all_goals simp [enabled, hw] at hen
  | send w =>
    dsimp only
    rcases hw : l.worker w with _ | _ | ⟨left, made, p⟩ | _ | _
    case holding => exact h.onSend_toGo hw
    all_goals simp [enabled, hw] at hen
  | resume w =>
    dsimp only
    rcases hw : l.worker w with _ | _ | _ | ⟨left, made, p⟩ | _
    case waiting => exact h.onResume_toGo hw
    all_goals simp [enabled, hw] at hen
  | conclude w =>
    dsimp only
    rcases hw : l.worker w with _ | ⟨_ | left, made⟩ | _ | _ | _
    case running.zero =>
      have hx : l.worker w ≠ .ended := by rw [hw]; exact Worker.noConfusion
      exact toGo_of_worker (y := .idle) hx rfl rfl (by rw [hw]; exact Nat.one_lt_two)
    all_goals simp [enabled, hw] at hen
  | endWorker w =>
    have hw := idle_of_endWorker hen
    have hx : l.worker w ≠ .ended := by rw [hw]; exact Worker.noConfusion
    exact toGo_of_worker (y := .ended) hx rfl rfl (by rw [hw]; exact Nat.one_pos)

/-- **Nobody is stuck**: while the load is not over, the ticker or a worker can move. -/
lemma Ending.enabled (h : l.Ending) (hv : l.isOver = false) : ∃ m, l.enabled m = true := by
  have hstop := h.stopping
  by_cases ht : l.ticker = .ended ∨ l.ticker = .failed
  · obtain ⟨x, hx, hne⟩ : ∃ x ∈ l.workers, x ≠ .ended := by
      by_contra hall
      push Not at hall
      have : l.isOver = true := by
        unfold isOver
        rw [Bool.and_eq_true]
        exact ⟨by simpa using ht,
          Array.all_eq_true_iff_forall_mem.mpr fun x hx => by rw [hall x hx]⟩
      cases hv.symm.trans this
    obtain ⟨w, hw⟩ := Array.mem_iff_getElem?.mp hx
    have hw : l.worker w = x := by rw [worker, hw]; rfl
    cases x with
    | ended => exact absurd rfl hne
    | idle => exact ⟨.endWorker w, by simp [Load.enabled, hw, hstop]⟩
    | running left made =>
      cases left with
      | zero => exact ⟨.conclude w, by simp [Load.enabled, hw]⟩
      | succ left => exact ⟨.begin w, by simp [Load.enabled, hw]⟩
    | holding => exact ⟨.send w, by simp [Load.enabled, hw]⟩
    | waiting left made p =>
      have hm := h.inLine w left made p hw
      exact ⟨.resume w, by simp [Load.enabled, hw, canResume, h.closed, hm]⟩
  · push Not at ht
    exact ⟨.endTicker, by simp [Load.enabled, hstop, ht]⟩

end Load

end ShopTraffic
