import ShopTraffic.Load.Machine
import ShopTraffic.Proofs.Flow.Fates
import ShopTraffic.Proofs.Flow.Items
import ShopTraffic.Proofs.Simulation.Parts

/-!
Events on their way from the visitors to the output queue. A worker produces an event, holds it
until the queue takes or refuses it, and never holds two.
-/

namespace ShopTraffic

lemma le_wholeMs (t : Nat) : t ≤ wholeMs t := by
  unfold wholeMs nanosPerMs
  omega

def Worker.held : Worker → Multiset Event
  | .holding _ _ p | .waiting _ _ p => {p.event}
  | .idle | .running _ _ | .ended => 0

namespace Load

def held (l : Load) : Multiset Event := holdings Worker.held l.workers

/-- What becomes of an event in a step that ends like that. -/
def fateOf (e : Event) : Outcome → Account
  | .emitted => entry .sent {e}
  | .queueClosed => entry .refused {e}
  | .noUser | .noTransition => 0

def fates (l : Load) (m : Move) : Account :=
  if !l.enabled m then 0
  else
    match m with
    | .begin w =>
      match l.worker w with
      | .running (_ + 1) _ =>
        match (l.sim.begin l.wall).2 with
        | .inr p => entry .produced {p.event}
        | .inl _ => 0
      | _ => 0
    | .send w =>
      match l.worker w with
      | .holding _ _ p =>
        match (l.sim.send p).2 with
        | .finished o => fateOf p.event o
        | .blocked => 0
      | _ => 0
    | .resume w =>
      match l.worker w with
      | .waiting _ _ p =>
        match l.sim.resume? p with
        | some (_, o) => fateOf p.event o
        | none => 0
      | _ => 0
    | .arm | .tick | .dispatch | .endTicker | .take _ | .conclude _ | .endWorker _ => 0

/-- The load `l'` has come of `l`, and the account tells what became of events on the way. -/
structure Passes (l l' : Load) (a : Account) : Prop where
  held : l'.held + a .sent + a .refused = l.held + a .produced
  queue : (l'.sim.output.items : Multiset Event) = l.sim.output.items + a .sent
  counted : l.sim.output.Counted → l'.sim.output.Counted
  closed : l'.sim.output.closed = l.sim.output.closed
  shut : l.sim.output.closed = true → a .sent = 0
  emitted : l'.stats.emitted = l.stats.emitted + (a .sent).card
  refused : l'.sim.errorsOf "queue_closed" = l.sim.errorsOf "queue_closed" + (a .refused).card
  errors : ∀ kind, kind ≠ "queue_closed" → l'.sim.errorsOf kind = l.sim.errorsOf kind
  events : l'.sim.metrics.counts.events = l.sim.metrics.counts.events
  others : a .published = 0 ∧ a .failed = 0 ∧ a .dropped = 0

variable {l l' : Load} {w : Nat} {x : Worker}

/-- Nothing happens to any event, though a sender may have begun to wait. -/
lemma passes_of_still (hh : l'.held = l.held) (hi : l'.sim.output.items = l.sim.output.items)
    (hn : l.sim.output.Counted → l'.sim.output.Counted)
    (hc : l'.sim.output.closed = l.sim.output.closed)
    (hm : l'.sim.metrics.counts.events = l.sim.metrics.counts.events ∧
      l'.sim.metrics.counts.errors = l.sim.metrics.counts.errors)
    (he : l'.stats.emitted = l.stats.emitted) : l.Passes l' 0 where
  held := by simp [hh]
  queue := by simp [hi]
  counted := hn
  closed := hc
  shut _ := rfl
  emitted := by simp [he]
  refused := by simp [Simulation.errorsOf, hm.2]
  errors kind _ := by simp [Simulation.errorsOf, hm.2]
  events := hm.1
  others := ⟨rfl, rfl, rfl⟩

lemma passes_of_quiet (hh : l'.held = l.held) (hs : l.sim.Undisturbed l'.sim)
    (he : l'.stats.emitted = l.stats.emitted) : l.Passes l' 0 :=
  passes_of_still hh (by rw [hs.output]) (by rw [hs.output]; exact id) (by rw [hs.output])
    ⟨hs.events, hs.errors⟩ he

lemma getElem?_worker (h : l.worker w = x) (hx : x ≠ .ended) : l.workers[w]? = some x := by
  unfold worker at h
  cases hw : l.workers[w]? with
  | none =>
    rw [hw] at h
    exact absurd h.symm hx
  | some y =>
    rw [hw] at h
    exact congrArg some h

/-- A worker that has not ended changes what it holds. -/
lemma held_of_set {y : Worker} (h : l.worker w = x) (hx : x ≠ .ended)
    (hw : l'.workers = l.workers.set! w y) : l'.held + x.held = l.held + y.held := by
  unfold held
  rw [hw]
  exact holdings_set (getElem?_worker h hx) y

lemma held_of_set_same {y : Worker} (h : l.worker w = x) (hx : x ≠ .ended)
    (hw : l'.workers = l.workers.set! w y) (hy : y.held = x.held) : l'.held = l.held := by
  have := held_of_set h hx hw
  rw [hy] at this
  exact add_right_cancel this

/-! ### The moves of a worker -/

variable {left made : Nat} {p : Pending} {q : Queue Event}

/-- A worker that begins a step produces an event or goes on to the next step. -/
lemma onBegin_passes (h : l.worker w = .running (left + 1) made) :
    l.Passes (l.onBegin w left made)
      (match (l.sim.begin l.wall).2 with
        | .inr p => entry .produced {p.event}
        | .inl _ => 0) := by
  have hu := l.sim.begin_undisturbed l.wall
  unfold onBegin
  rcases hb : l.sim.begin l.wall with ⟨sim, o | p⟩ <;> rw [hb] at hu
  · rcases Simulation.begin_ends (congrArg Prod.snd hb) with rfl | rfl
    all_goals
      exact passes_of_quiet
        (held_of_set_same (y := .running left (made + 1)) h Worker.noConfusion rfl rfl) hu rfl
  · have hq : l.Passes { l with sim } 0 := passes_of_quiet rfl hu rfl
    refine
      { held := ?_
        queue := hq.queue
        counted := hq.counted
        closed := hq.closed
        shut := fun _ => rfl
        emitted := rfl
        refused := hq.refused
        errors := hq.errors
        events := hq.events
        others := ⟨rfl, rfl, rfl⟩ }
    have hheld := held_of_set h Worker.noConfusion
      (rfl : ({ l with sim }.setWorker w (.holding left made p)).workers = _)
    simpa [entry, Worker.held] using hheld

lemma ne_ended_of_held (hx : x.held = {p.event}) : x ≠ .ended := by
  rintro rfl
  exact Multiset.singleton_ne_zero _ hx.symm

/-- The queue has taken the event of a worker. -/
lemma sent_passes (h : l.worker w = x) (hx : x.held = {p.event}) (hl : l.sim.output.closed = false)
    (hi : q.items = l.sim.output.items ++ [p.event]) (hc : q.closed = l.sim.output.closed)
    (hn : l.sim.output.Counted → q.Counted)
    (hs : l'.sim = ({ l.sim with output := q }.finish p true).1)
    (hw : l'.workers = l.workers.set! w (.running left made))
    (he : l'.stats.emitted = l.stats.emitted + 1) : l.Passes l' (entry .sent {p.event}) := by
  have hheld := held_of_set h (ne_ended_of_held hx) hw
  have hout : l'.sim.output = q := by rw [hs, Simulation.finish_output]
  have herr : ∀ kind, l'.sim.errorsOf kind = l.sim.errorsOf kind := fun kind => by
    rw [hs, Simulation.finish_errors]
    rfl
  exact
    { held := by
        rw [hx] at hheld
        simpa [entry, Worker.held] using hheld
      queue := by rw [hout, hi, entry_self, ← Multiset.coe_add]; rfl
      counted := by rw [hout]; exact hn
      closed := by rw [hout, hc]
      shut := fun hcl => absurd hcl (by rw [hl]; exact Bool.false_ne_true)
      emitted := by rw [he, entry_self, Multiset.card_singleton]
      refused := herr _
      errors := fun kind _ => herr kind
      events := by rw [hs, Simulation.finish_events]
      others := ⟨rfl, rfl, rfl⟩ }

/-- The queue is closed and has refused the event of a worker. -/
lemma refused_passes (h : l.worker w = x) (hx : x.held = {p.event})
    (hi : q.items = l.sim.output.items) (hc : q.closed = l.sim.output.closed)
    (hn : l.sim.output.Counted → q.Counted)
    (hs : l'.sim = ({ l.sim with output := q }.finish p false).1)
    (hw : l'.workers = l.workers.set! w (.running left made))
    (he : l'.stats.emitted = l.stats.emitted) : l.Passes l' (entry .refused {p.event}) := by
  have hheld := held_of_set h (ne_ended_of_held hx) hw
  have hout : l'.sim.output = q := by rw [hs, Simulation.finish_output]
  have herr : ∀ kind, l'.sim.errorsOf kind =
      l.sim.errorsOf kind + if "queue_closed" = kind then 1 else 0 := fun kind => by
    rw [hs, Simulation.finish_errors]
    simp [Simulation.errorsOf]
  exact
    { held := by
        rw [hx] at hheld
        simpa [entry, Worker.held] using hheld
      queue := by rw [hout, hi]; exact (add_zero _).symm
      counted := by rw [hout]; exact hn
      closed := by rw [hout, hc]
      shut := fun _ => rfl
      emitted := he
      refused := herr _
      errors := fun kind hk => by rw [herr, if_neg (Ne.symm hk)]; rfl
      events := by rw [hs, Simulation.finish_events]
      others := ⟨rfl, rfl, rfl⟩ }

/-- A worker that sends ends its step or waits with the event in its hands. -/
lemma onSend_passes (h : l.worker w = .holding left made p) :
    l.Passes (l.onSend w left made p)
      (match (l.sim.send p).2 with
        | .finished o => fateOf p.event o
        | .blocked => 0) := by
  unfold onSend
  rcases l.sim.send_cases p with ⟨hc, hs⟩ | ⟨hc, hs⟩ | ⟨hc, hs⟩ <;> rw [hs]
  · exact refused_passes (q := l.sim.output) h rfl rfl rfl id rfl rfl rfl
  · exact sent_passes h rfl hc (Queue.items_push _ _) rfl (fun hn => hn.push p.event) rfl rfl rfl
  · exact passes_of_still
      (held_of_set_same (y := .waiting left made p) h Worker.noConfusion rfl rfl) rfl id rfl
      ⟨rfl, rfl⟩ rfl

/-- A worker that waited ends its step, or goes on waiting. -/
lemma onResume_passes (h : l.worker w = .waiting left made p) :
    l.Passes (l.onResume w left made p)
      (match l.sim.resume? p with
        | some (_, o) => fateOf p.event o
        | none => 0) := by
  unfold onResume
  rcases l.sim.resume_cases p with ⟨hc, hs⟩ | ⟨hc, hs⟩ | hs <;> rw [hs]
  · exact refused_passes h rfl (Queue.items_abandon _) (Queue.abandon_closed _)
      Queue.Counted.abandon rfl rfl rfl
  · exact sent_passes h rfl hc (Queue.items_deliver _ _) rfl (fun hn => hn.deliver p.event) rfl rfl
      rfl
  · exact passes_of_quiet rfl l.sim.undisturbed_refl rfl

/-! ### All moves -/

lemma idle_of_take (h : l.enabled (.take w) = true) : l.worker w = .idle := by
  simp only [enabled] at h
  split at h
  · assumption
  · cases h

lemma idle_of_endWorker (h : l.enabled (.endWorker w) = true) : l.worker w = .idle := by
  simp only [enabled] at h
  split at h
  · assumption
  · cases h

lemma passes_refl (l : Load) : l.Passes l 0 := passes_of_quiet rfl l.sim.undisturbed_refl rfl

/-- **Nothing is lost on the way to the queue**, and nothing comes twice. -/
lemma perform_passes (l : Load) (m : Move) : l.Passes (l.perform m) (l.fates m) := by
  unfold perform fates
  split
  · exact l.passes_refl
  next hen =>
  rw [Bool.not_eq_true, Bool.not_eq_false'] at hen
  cases m with
  | arm => exact passes_of_quiet rfl l.sim.undisturbed_refl rfl
  | tick =>
    dsimp only
    split
    · exact passes_of_quiet rfl (l.sim.ensureVisitors_undisturbed _) rfl
    · exact l.passes_refl
  | dispatch =>
    dsimp only
    split
    · exact passes_of_quiet rfl l.sim.undisturbed_refl rfl
    · exact l.passes_refl
  | endTicker => exact passes_of_quiet rfl ⟨rfl, rfl, rfl, rfl⟩ rfl
  | take w =>
    have h := idle_of_take hen
    exact passes_of_quiet
      (held_of_set_same (y := .running l.plan.batch 0) h Worker.noConfusion rfl rfl)
      l.sim.undisturbed_refl rfl
  | begin w =>
    dsimp only
    rcases h : l.worker w with _ | ⟨_ | left, made⟩ | _ | _ | _
    case running.succ => exact onBegin_passes h
    all_goals exact l.passes_refl
  | send w =>
    dsimp only
    rcases h : l.worker w with _ | _ | ⟨left, made, p⟩ | _ | _
    case holding => exact onSend_passes h
    all_goals exact l.passes_refl
  | resume w =>
    dsimp only
    rcases h : l.worker w with _ | _ | _ | ⟨left, made, p⟩ | _
    case waiting => exact onResume_passes h
    all_goals exact l.passes_refl
  | conclude w =>
    dsimp only
    rcases h : l.worker w with _ | ⟨left, made⟩ | _ | _ | _
    case running =>
      exact passes_of_quiet (held_of_set_same (y := .idle) h Worker.noConfusion rfl rfl)
        ⟨rfl, rfl, rfl, rfl⟩ rfl
    all_goals exact l.passes_refl
  | endWorker w =>
    have h := idle_of_endWorker hen
    exact passes_of_quiet (held_of_set_same (y := .ended) h Worker.noConfusion rfl rfl)
      ⟨rfl, rfl, rfl, rfl⟩ rfl

end Load

end ShopTraffic
