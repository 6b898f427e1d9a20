import ShopTraffic.Proofs.Load.Run
import ShopTraffic.Proofs.Runs

/-!
What the ticker does. It sends a ticket for each worker at every tick, and waits for the next tick
when it has sent the last; so the tickets are those of all ticks but for some of the last one.

Ticks never come closer than the plan has them. They come exactly as the plan has them if nothing
holds the ticker up.
-/

namespace ShopTraffic

/-- The tickets that the ticker has still to send before it waits again; one that has come to an end
may have left some. -/
def Ticker.Owes (left : Nat) : Ticker → Prop
  | fresh | waiting _ => left = 0
  | dispatching n _ => left = n ∧ 0 < n
  | ended | failed => True

/-- The next tick is not due before the time `t`, and a ticker that has not begun made no ticks. -/
def Ticker.NotBefore (t : Instant) (ticks : Nat) : Ticker → Prop
  | fresh => ticks = 0
  | waiting due | dispatching _ due => t ≤ due
  | ended | failed => True

namespace Load

/-- The ticker goes by its plan. The load was started at the instant `t₀`. -/
structure Paced (p : Plan) (t₀ : Instant) (l : Load) : Prop where
  plan : l.plan = p
  tick : l.tick = p.tick
  owed : ∃ left ≤ p.workers, l.stats.tickets + left = l.stats.ticks * p.workers ∧ l.ticker.Owes left
  begun : t₀ ≤ l.instant
  last : 0 < l.stats.ticks → t₀ + (l.stats.ticks - 1) * p.tick ≤ l.instant
  next : l.ticker.NotBefore (t₀ + l.stats.ticks * p.tick) l.stats.ticks

variable {p : Plan} {t₀ : Instant} {l l' : Load}

/-- Time may have passed, and nothing has happened to the ticker. -/
lemma Paced.kept (h : Paced p t₀ l) (hp : l'.plan = l.plan) (hc : l'.tick = l.tick)
    (hs : l'.stats.ticks = l.stats.ticks ∧ l'.stats.tickets = l.stats.tickets)
    (hk : l'.ticker = l.ticker) (hi : l.instant ≤ l'.instant) : Paced p t₀ l' where
  plan := hp.trans h.plan
  tick := hc.trans h.tick
  owed := by rw [hs.1, hs.2, hk]; exact h.owed
  begun := h.begun.trans hi
  last := by rw [hs.1]; exact fun ht => (h.last ht).trans hi
  next := by rw [hs.1, hk]; exact h.next

lemma Paced.arm (h : Paced p t₀ l) {x : Ticker} (hf : l.ticker = .fresh)
    (hx : x = .failed ∨ x = .waiting l.instant) : Paced p t₀ { l with ticker := x } := by
  obtain ⟨left, hle, hl, hk⟩ := h.owed
  have hn := h.next
  rw [hf] at hk hn
  have ht : l.stats.ticks = 0 := hn
  refine { plan := h.plan, tick := h.tick, owed := ⟨left, hle, hl, ?_⟩, begun := h.begun
           last := h.last, next := ?_ }
  · rcases hx with rfl | rfl
    · exact trivial
    · exact hk
  · rcases hx with rfl | rfl
    · exact trivial
    · simpa [Ticker.NotBefore, ht] using h.begun

lemma due_le_nextDue (l : Load) {due : Instant} (hd : due ≤ l.instant) :
    due + l.tick ≤ l.nextDue due := by
  unfold nextDue
  split
  · exact Nat.add_le_add_right hd _
  · exact Nat.le_refl _

/-- With a tick the ticker owes a ticket to each worker. -/
lemma Paced.ticked (h : Paced p t₀ l) (hpos : 0 < p.workers) {due : Instant}
    (hf : l.ticker = .waiting due) (hd : due ≤ l.instant) : Paced p t₀ (l.onTick due) := by
  obtain ⟨left, -, hl, hk⟩ := h.owed
  have hn := h.next
  have hnext := l.due_le_nextDue hd
  rw [hf] at hk hn
  obtain rfl : left = 0 := hk
  have hn : t₀ + l.stats.ticks * p.tick ≤ due := hn
  rw [h.tick] at hnext
  refine { plan := h.plan, tick := h.tick, owed := ⟨p.workers, Nat.le_refl _, ?_, ?_⟩
           begun := h.begun, last := fun _ => ?_, next := ?_ }
  · simp only [onTick, Nat.succ_mul, ← hl, Nat.add_zero]
  · exact ⟨by rw [h.plan], by rw [h.plan]; exact hpos⟩
  · simp only [onTick, Nat.add_sub_cancel]
    exact hn.trans hd
  · show t₀ + (l.stats.ticks + 1) * p.tick ≤ l.nextDue due
    rw [Nat.succ_mul, ← Nat.add_assoc]
    exact (Nat.add_le_add_right hn _).trans hnext

lemma Paced.dispatched (h : Paced p t₀ l) {n : Nat} {next : Instant}
    (hf : l.ticker = .dispatching n next) : Paced p t₀ (l.onDispatch n next) := by
  obtain ⟨left, hle, hl, hk⟩ := h.owed
  have hn := h.next
  rw [hf] at hk hn
  obtain ⟨rfl, hpos⟩ := hk
  refine { plan := h.plan, tick := h.tick, owed := ⟨left - 1, by omega, ?_, ?_⟩
           begun := h.begun, last := h.last, next := ?_ }
  · simp only [onDispatch]
    omega
  · simp only [onDispatch]
    split
    · exact Nat.sub_eq_zero_of_le ‹_›
    · exact ⟨rfl, by omega⟩
  · simp only [onDispatch]
    split <;> exact hn

lemma Paced.endTicker (h : Paced p t₀ l) (sim : Simulation) :
    Paced p t₀ { l with sim, ticker := .ended } := by
  obtain ⟨left, hle, hl, -⟩ := h.owed
  exact { plan := h.plan, tick := h.tick, owed := ⟨left, hle, hl, trivial⟩
          begun := h.begun, last := h.last, next := trivial }

lemma Paced.move (h : Paced p t₀ l) (hpos : 0 < p.workers) (m : Move) :
    Paced p t₀ (l.perform m) := by
  have he := l.perform_effect m
  generalize l.perform m = l' at he ⊢
  cases he with
  | still => exact h
  | arm x hf hx => exact h.arm hf hx
  | tick due hf hd => exact h.ticked hpos hf ((le_wholeMs due).trans hd)
  | dispatch left next hf _ => exact h.dispatched hf
  | endTicker sim => exact h.endTicker sim
  | take | work | conclude | endWorker => exact h.kept rfl rfl ⟨rfl, rfl⟩ rfl (Nat.le_refl _)

lemma Paced.act (h : Paced p t₀ l) (hpos : 0 < p.workers) (a : Act) : Paced p t₀ (l.act a) := by
  cases a with
  | move m => exact h.move hpos m
  | stop =>
    rcases l.stop_cases with e | ⟨sim, e, -⟩ <;> simp only [Load.act, e]
    · exact h
    · exact h.kept rfl rfl ⟨rfl, rfl⟩ rfl (Nat.le_refl _)
  | pass span => exact h.kept rfl rfl ⟨rfl, rfl⟩ rfl (Nat.le_add_right _ _)
  | setClock | elsewhere => exact h.kept rfl rfl ⟨rfl, rfl⟩ rfl (Nat.le_refl _)

lemma Paced.run (h : Paced p t₀ l) (hpos : 0 < p.workers) (acts : List Act) :
    Paced p t₀ (l.run acts) := by
  induction acts generalizing l with
  | nil => exact h
  | cons a acts ih => exact ih (h.act hpos a)

lemma Starts.paced {l₀ : Load} {rate : Nat} (h : l₀.Starts l rate p) (hs : l₀.stats = {}) :
    Paced p l₀.instant l := by
  have hst : l.stats = {} := h.stats.trans hs
  exact
    { plan := h.plan
      tick := h.tick.trans (Plan.make?_spec h.made).1.symm
      owed := ⟨0, Nat.zero_le _, by simp [hst], by rw [h.ticker]; rfl⟩
      begun := Nat.le_of_eq h.instant.symm
      last := by simp [hst]
      next := by simp [h.ticker, hst, Ticker.NotBefore] }

/-! ### A ticker that is never held up -/

/-- Time passes only while the ticker waits, and not beyond the tick that it waits for. -/
def Punctual (l : Load) : Act → Prop
  | .pass span =>
    match l.ticker with
    | .waiting due => l.instant + span ≤ due
    | .fresh | .dispatching _ _ | .ended | .failed => False
  | _ => True

/-- The ticker has kept to its times so far. -/
def OnTime (p : Plan) (t₀ : Instant) (l : Load) : Prop :=
  match l.ticker with
  | .fresh => l.instant = t₀
  | .waiting due | .dispatching _ due =>
    due = t₀ + l.stats.ticks * p.tick ∧ l.instant ≤ due
  | .ended | .failed => True

lemma onTime_of_eq (h : OnTime p t₀ l) (hk : l'.ticker = l.ticker)
    (hs : l'.stats.ticks = l.stats.ticks) (hi : l'.instant = l.instant) : OnTime p t₀ l' := by
  unfold OnTime at h ⊢
  rw [hk, hs, hi]
  exact h

lemma OnTime.move (h : OnTime p t₀ l) (hl : Paced p t₀ l) (m : Move) :
    OnTime p t₀ (l.perform m) := by
  have he := l.perform_effect m
  generalize l.perform m = l' at he ⊢
  cases he with
  | still => exact h
  | arm x hf hx =>
    have hn := hl.next
    simp only [OnTime, hf] at h hn
    have ht : l.stats.ticks = 0 := hn
    rcases hx with rfl | rfl
    · exact trivial
    · exact ⟨by rw [h, ht, Nat.zero_mul, Nat.add_zero], Nat.le_refl _⟩
  | tick due hf hd =>
    simp only [OnTime, hf] at h
    obtain rfl : l.instant = due := Nat.le_antisymm h.2 ((le_wholeMs due).trans hd)
    have hnext : l.nextDue l.instant = l.instant + l.tick := by simp [nextDue]
    refine ⟨?_, ?_⟩
    · simp only [onTick, hnext, hl.tick, Nat.succ_mul]
      rw [h.1, Nat.add_assoc]
    · simp only [onTick, hnext]
      exact Nat.le_add_right _ _
  | dispatch left next hf _ =>
    simp only [OnTime, hf] at h
    by_cases hle : left ≤ 1 <;> simp only [OnTime, onDispatch, hle, if_true, if_false] <;> exact h
  | endTicker sim => exact trivial
  | take | work | conclude | endWorker => exact onTime_of_eq h rfl rfl rfl

lemma OnTime.act (h : OnTime p t₀ l) (hl : Paced p t₀ l) {a : Act} (ha : l.Punctual a) :
    OnTime p t₀ (l.act a) := by
  cases a with
  | move m => exact h.move hl m
  | stop =>
    rcases l.stop_cases with e | ⟨sim, e, -⟩ <;> simp only [Load.act, e]
    · exact h
    · exact onTime_of_eq h rfl rfl rfl
  | pass span =>
    simp only [Punctual] at ha
    simp only [OnTime, Load.act] at h ⊢
    rcases hk : l.ticker with _ | due | _ | _ | _ <;> rw [hk] at ha h
    case waiting => exact ⟨h.1, ha⟩
    all_goals cases ha
  | setClock | elsewhere => exact onTime_of_eq h rfl rfl rfl

lemma OnTime.run (h : OnTime p t₀ l) (hl : Paced p t₀ l) (hpos : 0 < p.workers) {acts : List Act}
    (ha : Along Load.act Punctual l acts) : OnTime p t₀ (l.run acts) := by
  induction acts generalizing l with
  | nil => exact h
  | cons a acts ih => exact ih (h.act hl ha.1) (hl.act hpos a) ha.2

end Load

end ShopTraffic
