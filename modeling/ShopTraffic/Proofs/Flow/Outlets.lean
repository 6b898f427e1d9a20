import ShopTraffic.Proofs.Flow.Fates
import ShopTraffic.Proofs.Flow.Items
import ShopTraffic.Proofs.Simulation.Parts
import ShopTraffic.Sink.Outlets

/-!
Events on their way from the output queue to the sink. A sink worker holds the event that it is
publishing, until the sink answers; a worker that is ended by force keeps what it holds.
-/

namespace ShopTraffic

/-- The sink breaks no worker. -/
def Sink.Steady (s : Sink) : Prop := ∀ e reason, s.publish e ≠ .breaks reason

lemma Sink.discard_steady : Sink.discard.Steady := fun _ _ h => Publication.noConfusion h

def Outlet.held : Outlet → Multiset Event
  | .publishing e _ | .aborted (some e) => {e}
  | .idle | .ended | .failed _ | .aborted none => 0

namespace Outlets

def held (o : Outlets) : Multiset Event := holdings Outlet.held o.workers

/-- What becomes of an event that the sink answers for. -/
def fateOf (e : Event) : Except SinkError Unit → Account
  | .ok () => entry .published {e}
  | .error _ => entry .failed {e}

def fates (o : Outlets) (q : Queue Event) (now : Instant) (m : Move) : Account :=
  if !o.enabled q now m then 0
  else
    match m with
    | .answer k =>
      match o.worker k with
      | .publishing e (some (_, result)) => fateOf e result
      | _ => 0
    | .take _ | .finish _ => 0

def failures (sim : Simulation) : Nat := sim.errorsOf "serialization" + sim.errorsOf "publish"

/-- The workers `o'` have come of `o`, and the account tells what became of events on the way. -/
structure Passes (o o' : Outlets) (sim sim' : Simulation) (a : Account) : Prop where
  held : o'.held + sim'.output.items + a .published + a .failed = o.held + sim.output.items
  counted : sim.output.Counted → sim'.output.Counted
  closed : sim'.output.closed = sim.output.closed
  events : sim'.metrics.counts.events = sim.metrics.counts.events + (a .published).card
  failures : failures sim' = failures sim + (a .failed).card
  refused : sim'.errorsOf "queue_closed" = sim.errorsOf "queue_closed"
  others : a .produced = 0 ∧ a .sent = 0 ∧ a .refused = 0 ∧ a .dropped = 0

variable {o o' : Outlets} {sim sim' : Simulation} {k j : Nat} {x y : Outlet} {now : Instant}

lemma passes_refl (o : Outlets) (sim : Simulation) : o.Passes o sim sim 0 :=
  ⟨by simp, id, rfl, rfl, rfl, rfl, rfl, rfl, rfl, rfl⟩

lemma getElem?_worker (h : o.worker k = x) (hx : x ≠ .ended) : o.workers[k]? = some x := by
  unfold worker at h
  cases hk : o.workers[k]? with
  | none =>
    rw [hk] at h
    exact absurd h.symm hx
  | some y =>
    rw [hk] at h
    exact congrArg some h

lemma worker_setWorker_ne (h : k ≠ j) (x : Outlet) : (o.setWorker k x).worker j = o.worker j := by
  simp [worker, setWorker, h]

lemma worker_setWorker_self (h : k < o.workers.size) (x : Outlet) :
    (o.setWorker k x).worker k = x := by
  simp [worker, setWorker, h]

lemma size_setWorker (o : Outlets) (k : Nat) (x : Outlet) :
    (o.setWorker k x).workers.size = o.workers.size := by
  simp [setWorker]

lemma worker_setWorker (h : o.worker k = x) (hx : x ≠ .ended) (y : Outlet) (j : Nat) :
    (o.setWorker k y).worker j = if k = j then y else o.worker j := by
  have hk := (Array.getElem?_eq_some_iff.mp (getElem?_worker h hx)).1
  split
  · next hj => rw [← hj, worker_setWorker_self hk]
  · next hj => exact worker_setWorker_ne hj y

lemma held_of_set (h : o.worker k = x) (hx : x ≠ .ended)
    (hw : o'.workers = o.workers.set! k y) : o'.held + x.held = o.held + y.held := by
  unfold held
  rw [hw]
  exact holdings_set (getElem?_worker h hx) y

/-- A worker takes the oldest event of the queue into its hands. -/
lemma onTake_passes (hs : o.sink.Steady) (h : o.worker k = .idle) {e : Event} {q : Queue Event}
    (hq : sim.output.pop = some (e, q)) (hsim : sim'.output = q) (hm : sim'.metrics = sim.metrics) :
    o.Passes (o.onTake now k e) sim sim' 0 := by
  obtain ⟨hi, hc, hn⟩ := Queue.pop_some hq
  obtain ⟨a, ha⟩ : ∃ a, o.onTake now k e = o.setWorker k (.publishing e a) := by
    unfold onTake
    split
    · exact ⟨_, rfl⟩
    · exact ⟨_, rfl⟩
    · next reason hr => exact absurd hr (hs e reason)
  have hh : (o.onTake now k e).held = o.held + {e} := by
    have hset : (o.setWorker k (.publishing e a)).held + Outlet.held .idle =
        o.held + Outlet.held (.publishing e a) := held_of_set h Outlet.noConfusion rfl
    rw [ha]
    exact (add_zero _).symm.trans hset
  refine
    { held := ?_
      counted := by rw [hsim]; exact hn
      closed := by rw [hsim, hc]
      events := by rw [hm]; rfl
      failures := by simp [Outlets.failures, Simulation.errorsOf, hm]
      refused := by rw [Simulation.errorsOf, hm]; rfl
      others := ⟨rfl, rfl, rfl, rfl⟩ }
  rw [hsim, hi, hh, ← Multiset.cons_coe, ← Multiset.singleton_add]
  simp only [Pi.zero_apply, add_zero]
  ac_rfl

/-- A worker that has an answer has its hands free. -/
lemma held_of_answer {e : Event} {a : Option (Instant × Except SinkError Unit)}
    (h : o.worker k = .publishing e a) (hw : o'.workers = o.workers.set! k .idle) :
    o'.held + {e} = o.held :=
  (held_of_set h Outlet.noConfusion hw).trans (add_zero _)

/-- The sink has accepted the event of a worker or refused it. -/
lemma onAnswer_passes {e : Event} {a : Option (Instant × Except SinkError Unit)}
    (h : o.worker k = .publishing e a) (result : Except SinkError Unit) :
    o.Passes (o.onAnswer sim k e result).1 sim (o.onAnswer sim k e result).2 (fateOf e result) := by
  rcases result with reason | _
  · have hheld : (o.onAnswer sim k e (.error reason)).1.held + {e} = o.held := held_of_answer h rfl
    have herr : ∀ kind, (o.onAnswer sim k e (.error reason)).2.errorsOf kind =
        sim.errorsOf kind + if reason.kind = kind then 1 else 0 :=
      Simulation.errors_error sim.metrics reason.kind
    refine
      { held := ?_
        counted := id
        closed := rfl
        events := rfl
        failures := ?_
        refused := ?_
        others := ⟨rfl, rfl, rfl, rfl⟩ }
    · rw [← hheld]
      simp only [fateOf, entry_self, entry_other (show Fate.published ≠ .failed by decide),
        add_zero]
      exact add_right_comm ..
    · rw [Outlets.failures, herr, herr]
      cases reason <;> simp [SinkError.kind, Outlets.failures, fateOf] <;> omega
    · rw [herr]
      cases reason <;> simp [SinkError.kind]
  · have hheld : (o.onAnswer sim k e (.ok ())).1.held + {e} = o.held := held_of_answer h rfl
    refine
      { held := ?_
        counted := id
        closed := rfl
        events := rfl
        failures := rfl
        refused := rfl
        others := ⟨rfl, rfl, rfl, rfl⟩ }
    rw [← hheld]
    simp only [fateOf, entry_self, entry_other (show Fate.failed ≠ .published by decide), add_zero]
    exact add_right_comm ..

lemma idle_of_take {q : Queue Event} (h : o.enabled q now (.take k) = true) :
    o.worker k = .idle := by
  simp only [enabled] at h
  split at h
  · assumption
  · cases h

lemma idle_of_finish {q : Queue Event} (h : o.enabled q now (.finish k) = true) :
    o.worker k = .idle := by
  simp only [enabled] at h
  split at h
  · assumption
  · cases h

/-- **Nothing is lost between the queue and the sink**, and nothing comes twice. -/
lemma perform_passes (hs : o.sink.Steady) (sim : Simulation) (now : Instant) (m : Move) :
    o.Passes (o.perform m sim now).1 sim (o.perform m sim now).2 (o.fates sim.output now m) := by
  unfold perform fates
  split
  · exact o.passes_refl sim
  next hen =>
  rw [Bool.not_eq_true, Bool.not_eq_false'] at hen
  cases m with
  | take k =>
    have h := idle_of_take hen
    dsimp only
    rcases hq : sim.output.pop with _ | ⟨e, q⟩
    · exact o.passes_refl sim
    · exact onTake_passes hs h hq rfl rfl
  | answer k =>
    dsimp only
    rcases h : o.worker k with _ | ⟨e, _ | ⟨due, result⟩⟩ | _ | _ | _
    case publishing.some => exact onAnswer_passes h result
    all_goals exact o.passes_refl sim
  | finish k =>
    have h := idle_of_finish hen
    have hheld : (o.setWorker k .ended).held = o.held :=
      (add_zero _).symm.trans ((held_of_set h Outlet.noConfusion rfl).trans (add_zero _))
    exact
      { held := by
          rw [hheld]
          simp [Simulation.note]
        counted := id
        closed := rfl
        events := rfl
        failures := rfl
        refused := rfl
        others := ⟨rfl, rfl, rfl, rfl⟩ }

end Outlets

end ShopTraffic
