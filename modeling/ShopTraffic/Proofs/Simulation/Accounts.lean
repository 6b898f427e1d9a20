import Mathlib.Data.List.Basic
import ShopTraffic.Proofs.Metrics.Tallies
import ShopTraffic.Proofs.Registry.Turnover
import ShopTraffic.Proofs.Simulation.Crowd

/-!
What the counters of a run say. Beside the run stands its history: which steps have begun and how
they have returned, which events were made, and which sessions look-ups and sweeps have removed. At
every moment each counter is a count over the history, however the steps overlap. A session that is
opened and a search that is submitted both count as a session that has started.

The removals of the history are not taken on trust. To the registry a run is a sequence of
look-ups, sweeps, deletions and writes; the sessions that leave its tables in them are, deletions
aside, the removals of the history, one by one.
-/

namespace ShopTraffic

lemma transitionCount_transition (m : Metrics) (p q p' q' : State) :
    (m.transition p q).counts.transitionCount p' q' =
      m.counts.transitionCount p' q' + if p = p' ∧ q = q' then 1 else 0 :=
  m.counts.transitionCount_tally p q p' q'

/-! ### The history of a run -/

inductive Fact
  | begun
  | produced (e : Event)
  /-- A step returns; there is no event if none was made. -/
  | returned (e : Option Event) (o : Outcome)
  | removed (way : Way)

namespace Fact

def isBegun : Fact → Bool
  | begun => true
  | _ => false

def isSearch : Fact → Bool
  | produced e => e.action = .searchSubmitted
  | _ => false

def isMove (p q : State) : Fact → Bool
  | produced e => e.previous = p ∧ e.state = q
  | _ => false

def isReturned (o : Outcome) : Fact → Bool
  | returned _ o' => o' = o
  | _ => false

def isReturn : Fact → Bool
  | returned _ _ => true
  | _ => false

/-- A step has returned whose event was an exit. -/
def isExit : Fact → Bool
  | returned (some e) _ => e.action = .exit
  | _ => false

def isRemoved (way : Way) : Fact → Bool
  | removed way' => way' = way
  | _ => false

def way? : Fact → Option Way
  | removed way => some way
  | _ => none

/-- A step returns in exactly one of four ways. -/
lemma countP_isReturn (fs : List Fact) :
    fs.countP isReturn = fs.countP (isReturned .noUser) + fs.countP (isReturned .noTransition) +
      fs.countP (isReturned .emitted) + fs.countP (isReturned .queueClosed) := by
  induction fs with
  | nil => rfl
  | cons f fs ih =>
    simp only [List.countP_cons, ih]
    cases f with
    | returned e o => cases o <;> simp [isReturn, isReturned] <;> omega
    | begun | produced | removed => simp [isReturn, isReturned]

end Fact

def Registry.removals (r : Registry) (op : Registry.Op) : List Fact :=
  (r.departures op).map fun d => .removed d.way

lemma Registry.countP_removals (r : Registry) (op : Registry.Op) (way : Way) :
    (r.removals op).countP (Fact.isRemoved way) = r.takes way op := by
  rw [removals, List.countP_map, ← count_departures, List.count, List.countP_map]
  rfl

lemma Registry.filterMap_removals (r : Registry) (op : Registry.Op) :
    (r.removals op).filterMap Fact.way? = (r.departures op).map (·.way) := by
  simp [removals, List.filterMap_map, Function.comp_def, Fact.way?]

/-- Removals are only removals. -/
lemma Registry.countP_removals_eq_zero (r : Registry) (op : Registry.Op) {f : Fact → Bool}
    (hf : ∀ way, f (.removed way) = false) : (r.removals op).countP f = 0 := by
  simp [removals, hf]

namespace Simulation

variable {sim sim' sim'' : Simulation} {fs gs : List Fact}

/-- The counters have changed as the facts say. -/
structure Counted (sim : Simulation) (fs : List Fact) (sim' : Simulation) : Prop where
  started : sim'.metrics.counts.started + sim.registry.created.size =
    sim.metrics.counts.started + sim'.registry.created.size + fs.countP Fact.isSearch
  completed : sim'.completed = sim.completed + fs.countP (Fact.isRemoved .lapsed) +
    fs.countP (Fact.isRemoved .swept) + fs.countP Fact.isExit
  transitions : ∀ p q, sim'.metrics.counts.transitionCount p q =
    sim.metrics.counts.transitionCount p q + if p = q then 0 else fs.countP (Fact.isMove p q)
  errors : ∀ kind, sim'.errorsOf kind = sim.errorsOf kind +
    if kind = "queue_closed" then fs.countP (Fact.isReturned .queueClosed) else 0

lemma Counted.trans (h : sim.Counted fs sim') (h' : sim'.Counted gs sim'') :
    sim.Counted (fs ++ gs) sim'' where
  started := by
    have := h.started
    have := h'.started
    rw [List.countP_append]
    omega
  completed := by
    simp only [List.countP_append, h'.completed, h.completed]
    omega
  transitions p q := by
    rw [h'.transitions, h.transitions, List.countP_append]
    split <;> omega
  errors kind := by
    rw [h'.errors, h.errors, List.countP_append]
    split <;> omega

/-- Nothing was counted, and no session was opened. -/
lemma counted_aside (hm : sim'.metrics = sim.metrics)
    (hs : sim'.registry.created.size = sim.registry.created.size) : sim.Counted [] sim' where
  started := by simp [hm, hs]
  completed := by simp [completed, hm]
  transitions p q := by simp [hm]
  errors kind := by simp [errorsOf, hm]

/-- A step begins, which is not counted. -/
lemma Counted.begun (h : sim.Counted fs sim') : sim.Counted (.begun :: fs) sim' :=
  ⟨h.started, h.completed, h.transitions, h.errors⟩

/-- A step returns without an event, which is not counted. -/
lemma Counted.returned (h : sim.Counted fs sim') {o : Outcome} (ho : o ≠ .queueClosed) :
    sim.Counted (fs ++ [.returned none o]) sim' := by
  refine h.trans ⟨rfl, rfl, fun p q => ?_, fun kind => ?_⟩
  · simp [Fact.isMove]
  · simp [Fact.isReturned, ho]

/-! ### The parts of a step -/

lemma obtain_counted (sim : Simulation) (user : String) (now : Time) :
    sim.Counted (sim.registry.removals (.obtain user now)) (sim.obtain user now).1 where
  started := by
    rw [Registry.countP_removals_eq_zero _ _ fun _ => rfl]
    simp only [obtain]
    rcases sim.registry.lookUp_cases user now with
      ⟨n, -, e⟩ | ⟨-, e⟩ | ⟨id, n, -, -, e⟩ <;> rw [e]
    · simp [countOrigin]
    · simp [countOrigin, Metrics.started, Registry.openSession_created_size]
      omega
    · split <;> simp [countOrigin, note, Metrics.started, Metrics.completed,
        Registry.openSession_created_size, Registry.remove_created] <;> omega
  completed := by
    have hs : sim.registry.takes .swept (.obtain user now) = 0 := rfl
    rw [obtain_lapsed, Registry.countP_removals, Registry.countP_removals, hs,
      Registry.countP_removals_eq_zero _ _ fun _ => rfl]
    rfl
  transitions p q := by
    rw [Registry.countP_removals_eq_zero _ _ fun _ => rfl, ite_self, Nat.add_zero]
    simp only [obtain]
    cases (sim.registry.obtain user now).2.2 <;> rfl
  errors kind := by
    rw [Registry.countP_removals_eq_zero _ _ fun _ => rfl, ite_self, Nat.add_zero, errorsOf,
      (obtain_undisturbed sim user now).errors, errorsOf]

lemma advance_counted (sim : Simulation) (n : Nat) (now : Time) :
    sim.Counted [] (sim.advance n now).1 := by
  unfold advance
  split <;> exact counted_aside rfl (Registry.update_size _ _ _)

lemma retire_counted (sim : Simulation) (user : String) (n : Nat) :
    sim.Counted [] (sim.retire user n) := by
  refine counted_aside ?_ ?_
  · unfold retire
    dsimp only
    split <;> rfl
  · rw [retire_registry]
    split
    · rw [Registry.delete_created]
    · rfl

lemma countMove_counted (sim : Simulation) (e : Event) :
    sim.Counted [.produced e] (sim.countMove e) := by
  refine
    { started := ?_
      completed := (countMove_undisturbed sim e).2
      transitions := fun p q => ?_
      errors := fun kind => ?_ }
  · rw [countMove_registry]
    unfold countMove
    by_cases ha : e.action = .searchSubmitted <;> by_cases hm : e.previous = e.state <;>
      simp [note, Action.startsSession, Fact.isSearch, Metrics.started, Metrics.transition, ha, hm]
        <;> omega
  · have h : (sim.countMove e).metrics.counts.transitionCount p q =
        (if e.previous = e.state then sim.metrics
          else sim.metrics.transition e.previous e.state).counts.transitionCount p q := by
      unfold countMove
      dsimp only
      split <;> split <;> rfl
    have hmove : Fact.isMove p q (.produced e) = true ↔ e.previous = p ∧ e.state = q := by
      simp [Fact.isMove]
    rw [h, List.countP_singleton]
    by_cases hm : e.previous = e.state
    · rw [if_pos hm]
      by_cases hpq : p = q
      · rw [if_pos hpq, Nat.add_zero]
      · rw [if_neg hpq, if_neg, Nat.add_zero]
        rw [hmove]
        rintro ⟨rfl, rfl⟩
        exact hpq hm
    · rw [if_neg hm, transitionCount_transition]
      by_cases hpq : p = q
      · subst hpq
        rw [if_pos rfl, if_neg fun h => hm (h.1.trans h.2.symm)]
      · rw [if_neg hpq]
        simp only [hmove]
  · rw [errorsOf, (countMove_undisturbed sim e).1.errors]
    simp [errorsOf, Fact.isReturned]

/-- How a step returns whose event was sent or refused. -/
lemma finish_counted (sim : Simulation) (p : Pending) (sent : Bool) :
    sim.Counted [.returned (some p.event) (if sent then .emitted else .queueClosed)]
      (sim.finish p sent).1 where
  started := by
    have hs : (sim.finish p sent).1.metrics.counts.started = sim.metrics.counts.started := by
      unfold finish
      cases sent <;> dsimp only <;> split <;> rfl
    have hr : (sim.finish p sent).1.registry.created.size = sim.registry.created.size := by
      rw [finish_registry]
      split
      · rw [Registry.delete_created]
      · rfl
    simp [hs, hr, Fact.isSearch]
  completed := by
    rw [finish_completed]
    simp [Fact.isRemoved, Fact.isExit, Action.endsSession, List.countP_cons]
  transitions q q' := by
    have h : (sim.finish p sent).1.metrics.counts.transitions = sim.metrics.counts.transitions := by
      unfold finish
      cases sent <;> dsimp only <;> split <;> rfl
    simp [Snapshot.transitionCount, h, Fact.isMove]
  errors kind := by
    rw [finish_errors, List.countP_singleton]
    by_cases hk : kind = "queue_closed"
    · subst hk
      cases sent <;> rfl
    · rw [if_neg hk, if_neg fun h => hk h.2.symm]

lemma sweep_counted (sim : Simulation) (now : Time) :
    sim.Counted (sim.registry.removals (.sweep now)) (sim.sweep now).1 where
  started := by
    have hs : (sim.sweep now).1.metrics.counts.started = sim.metrics.counts.started := by
      unfold sweep
      dsimp only
      split <;> simp [note, Metrics.activeSessions, completedTimes_counts]
    rw [Registry.countP_removals_eq_zero _ _ fun _ => rfl, hs, sweep_registry,
      Registry.sweep_created, Nat.add_zero]
  completed := by
    have hl : sim.registry.takes .lapsed (.sweep now) = 0 := rfl
    rw [sweep_completed, Registry.countP_removals, Registry.countP_removals, hl,
      Registry.countP_removals_eq_zero _ _ fun _ => rfl]
    rfl
  transitions p q := by
    have h : (sim.sweep now).1.metrics.counts.transitions = sim.metrics.counts.transitions := by
      unfold sweep
      dsimp only
      split <;> simp [note, Metrics.activeSessions, completedTimes_counts]
    rw [Registry.countP_removals_eq_zero _ _ fun _ => rfl, ite_self, Nat.add_zero,
      Snapshot.transitionCount, h, Snapshot.transitionCount]
  errors kind := by
    rw [Registry.countP_removals_eq_zero _ _ fun _ => rfl, ite_self, Nat.add_zero, errorsOf,
      (sweep_undisturbed sim now).errors, errorsOf]

end Simulation

namespace Crowd

/-- How a step that tries to send returns, if it does. -/
def verdict (sim : Simulation) (u : Underway) : Option Outcome :=
  if u.waits then (sim.resume? u.step).map (·.2)
  else
    match (sim.send u.step).2 with
    | .finished o => some o
    | .blocked => none

/-- What the look-up of a step that begins removes. -/
def replaced (c : Crowd) (now : Time) : List Fact :=
  match c.sim.drawVisitor.2 with
  | none => []
  | some user => c.sim.registry.removals (.obtain user now)

def facts (c : Crowd) : Move → List Fact
  | .begin now =>
    .begun :: c.replaced now ++
      match (c.sim.begin now).2 with
      | .inl o => [.returned none o]
      | .inr p => [.produced p.event]
  | .send place =>
    match c.underway[place]? with
    | none => []
    | some u => (verdict c.sim u).toList.map (.returned u.step.event)
  | .sweep now => c.sim.registry.removals (.sweep now)
  | .lookUp user now => c.sim.registry.removals (.obtain user now)
  | .receive | .close | .grow _ => []

def history (c : Crowd) (moves : List Move) : List Fact := yields perform facts c moves

variable {c : Crowd}

lemma countP_replaced_eq_zero (c : Crowd) (now : Time) {f : Fact → Bool}
    (hf : ∀ way, f (.removed way) = false) : (c.replaced now).countP f = 0 := by
  unfold replaced
  split
  · rfl
  · exact Registry.countP_removals_eq_zero _ _ hf

/-- A step returns if its attempt to send has ended, and then its event was sent or refused. -/
lemma verdict_cases (sim : Simulation) (u : Underway) :
    (∃ output, verdict sim u = none ∧ attempt sim u = ({ sim with output }, false)) ∨
    ∃ output sent, verdict sim u = some (if sent then .emitted else .queueClosed) ∧
      attempt sim u = (({ sim with output }.finish u.step sent).1, true) := by
  unfold verdict attempt
  split_ifs
  · rcases sim.resume_cases u.step with ⟨-, e⟩ | ⟨-, e⟩ | e <;> rw [e]
    · exact .inr ⟨_, false, rfl, rfl⟩
    · exact .inr ⟨_, true, rfl, rfl⟩
    · exact .inl ⟨_, rfl, rfl⟩
  · rcases sim.send_cases u.step with ⟨-, e⟩ | ⟨-, e⟩ | ⟨-, e⟩ <;> rw [e]
    · exact .inr ⟨sim.output, false, rfl, rfl⟩
    · exact .inr ⟨_, true, rfl, rfl⟩
    · exact .inl ⟨_, rfl, rfl⟩

lemma begin_counted (c : Crowd) (now : Time) :
    c.sim.Counted (c.facts (.begin now)) (c.sim.begin now).1 := by
  have hd : c.sim.Counted [] c.sim.drawVisitor.1 := Simulation.counted_aside rfl rfl
  unfold facts replaced
  refine Simulation.Counted.begun ?_
  rcases c.sim.begin_cases now with ⟨hn, e⟩ | ⟨user, hu, ⟨sim₂, ha, e⟩ | ⟨sim₂, ev, ha, e⟩⟩ <;>
    rw [e]
  · rw [hn]
    exact hd.returned Outcome.noConfusion
  · rw [hu]
    have hm := Simulation.advance_counted (c.sim.drawVisitor.1.obtain user now).1
      (c.sim.drawVisitor.1.obtain user now).2 now
    rw [ha] at hm
    have h := hd.trans ((Simulation.obtain_counted _ user now).trans
      (hm.trans (sim₂.retire_counted user (c.sim.drawVisitor.1.obtain user now).2)))
    simp only [List.nil_append, List.append_nil] at h
    exact h.returned Outcome.noConfusion
  · rw [hu]
    have hm := Simulation.advance_counted (c.sim.drawVisitor.1.obtain user now).1
      (c.sim.drawVisitor.1.obtain user now).2 now
    rw [ha] at hm
    exact hd.trans ((Simulation.obtain_counted _ user now).trans
      (hm.trans (sim₂.countMove_counted ev)))

lemma send_counted {place : Nat} {u : Underway} (h : c.underway[place]? = some u) :
    c.sim.Counted (c.facts (.send place)) (c.perform (.send place)).sim := by
  rw [perform_send_sim h]
  simp only [facts, h]
  rcases verdict_cases c.sim u with ⟨output, ev, ea⟩ | ⟨output, sent, ev, ea⟩ <;> rw [ev, ea]
  · exact Simulation.counted_aside rfl rfl
  · have ho : c.sim.Counted [] { c.sim with output } := Simulation.counted_aside rfl rfl
    exact ho.trans (Simulation.finish_counted _ u.step sent)

/-- **Every move is counted for what it is.** -/
lemma perform_counted (c : Crowd) (m : Move) : c.sim.Counted (c.facts m) (c.perform m).sim := by
  cases m with
  | begin now =>
    have h : (c.perform (.begin now)).sim = (c.sim.begin now).1 := by
      simp only [perform]
      rcases c.sim.begin now with ⟨sim, o | p⟩ <;> rfl
    rw [h]
    exact c.begin_counted now
  | send place =>
    rcases h : c.underway[place]? with _ | u
    · simp only [facts, perform, h]
      exact Simulation.counted_aside rfl rfl
    · exact send_counted h
  | receive =>
    simp only [facts, perform]
    split <;> exact Simulation.counted_aside rfl rfl
  | close => exact Simulation.counted_aside rfl rfl
  | sweep now => exact c.sim.sweep_counted now
  | lookUp user now => exact c.sim.obtain_counted user now
  | grow least =>
    refine Simulation.counted_aside ?_ ?_ <;> simp only [perform, Simulation.ensureVisitors] <;>
      split <;> rfl

/-- A step that begins either returns at once or is under way, and then it returns once. -/
lemma perform_underway (c : Crowd) (m : Move) :
    (c.perform m).underway.length + (c.facts m).countP Fact.isReturn =
      c.underway.length + (c.facts m).countP Fact.isBegun := by
  have hr : ∀ op, (c.sim.registry.removals op).countP Fact.isReturn = 0 ∧
      (c.sim.registry.removals op).countP Fact.isBegun = 0 := fun op =>
    ⟨Registry.countP_removals_eq_zero _ op fun _ => rfl,
      Registry.countP_removals_eq_zero _ op fun _ => rfl⟩
  cases m with
  | begin now =>
    have h₁ : (c.replaced now).countP Fact.isReturn = 0 :=
      c.countP_replaced_eq_zero now fun _ => rfl
    have h₂ : (c.replaced now).countP Fact.isBegun = 0 :=
      c.countP_replaced_eq_zero now fun _ => rfl
    simp only [perform, facts, List.countP_append, List.countP_cons, h₁, h₂]
    rcases c.sim.begin now with ⟨sim, o | p⟩ <;> simp [Fact.isReturn, Fact.isBegun]
  | send place =>
    rcases h : c.underway[place]? with _ | u
    · simp [perform, facts, h]
    · have hlt := (List.getElem?_eq_some_iff.mp h).1
      simp only [perform, facts, h]
      rcases verdict_cases c.sim u with ⟨output, ev, ea⟩ | ⟨output, sent, ev, ea⟩ <;> rw [ev, ea]
      · simp
      · simp [List.length_eraseIdx, hlt, Fact.isReturn, Fact.isBegun]
        omega
  | receive =>
    simp only [perform, facts]
    split <;> rfl
  | close | grow => rfl
  | sweep now => simp [perform, facts, hr]
  | lookUp user now => simp [perform, facts, hr]

lemma history_counted (c : Crowd) (moves : List Move) :
    c.sim.Counted (c.history moves) (c.run moves).sim := by
  induction moves generalizing c with
  | nil => exact Simulation.counted_aside rfl rfl
  | cons m moves ih => exact (c.perform_counted m).trans (ih (c.perform m))

lemma history_underway (c : Crowd) (moves : List Move) :
    (c.run moves).underway.length + (c.history moves).countP Fact.isReturn =
      c.underway.length + (c.history moves).countP Fact.isBegun := by
  induction moves generalizing c with
  | nil => rfl
  | cons m moves ih =>
    have h := c.perform_underway m
    have h' := ih (c.perform m)
    simp only [run_cons, history, yields, List.countP_append] at h' ⊢
    omega

/-- A step returns without an event only when it begins. -/
lemma facts_of_eventless {m : Move} {e : Option Event} {o : Outcome}
    (h : .returned e o ∈ c.facts m) (ho : o = .noUser ∨ o = .noTransition) :
    ∃ now, c.facts m = .begun :: c.replaced now ++ [.returned none o] := by
  have hr : ∀ op, .returned e o ∉ c.sim.registry.removals op := by simp [Registry.removals]
  cases m with
  | begin now =>
    refine ⟨now, ?_⟩
    have hf : .returned e o ∉ c.replaced now := by
      unfold replaced
      split
      · simp
      · exact hr _
    simp only [facts] at h ⊢
    rcases hb : (c.sim.begin now).2 with o' | p <;> rw [hb] at h
    · obtain ⟨rfl, rfl⟩ : e = none ∧ o = o' := by simpa [hf] using h
      rfl
    · simp [hf] at h
  | send place =>
    rcases hu : c.underway[place]? with _ | u <;> simp only [facts, hu] at h
    · cases h
    · rcases verdict_cases c.sim u with ⟨output, ev, -⟩ | ⟨output, sent, ev, -⟩ <;> rw [ev] at h
      · cases h
      · rcases ho with rfl | rfl <;> cases sent <;> simp at h
  | sweep now => exact absurd h (hr _)
  | lookUp user now => exact absurd h (hr _)
  | receive | close | grow => cases h

/-- A step that returns without an event changes no count of moves or errors. -/
lemma perform_eventless {m : Move} {e : Option Event} {o : Outcome}
    (h : .returned e o ∈ c.facts m) (ho : o = .noUser ∨ o = .noTransition) :
    (∀ p q, (c.perform m).sim.metrics.counts.transitionCount p q =
      c.sim.metrics.counts.transitionCount p q) ∧
    ∀ kind, (c.perform m).sim.errorsOf kind = c.sim.errorsOf kind := by
  obtain ⟨now, hf⟩ := facts_of_eventless h ho
  have hc := c.perform_counted m
  rw [hf] at hc
  refine ⟨fun p q => ?_, fun kind => ?_⟩
  · have hz : (c.replaced now).countP (Fact.isMove p q) = 0 :=
      c.countP_replaced_eq_zero now fun _ => rfl
    rw [hc.transitions, List.countP_append, List.countP_cons, hz]
    simp [Fact.isMove]
  · have hz : (c.replaced now).countP (Fact.isReturned .queueClosed) = 0 :=
      c.countP_replaced_eq_zero now fun _ => rfl
    rw [hc.errors, List.countP_append, List.countP_cons, hz]
    rcases ho with rfl | rfl <;> simp [Fact.isReturned]

/-! ### Who leaves the tables -/

/-- What a step does to the registry when it begins for a visitor: it looks for a session, writes
what becomes of it, and deletes it if there is no way on because it is over. -/
def beginOps (sim : Simulation) (user : String) (now : Time) : List Registry.Op :=
  let (sim₁, n) := sim.obtain user now
  let (sim₂, e) := sim₁.advance n now
  let s := sim₂.registry.session n
  .obtain user now :: .write n (fun _ => s) ::
    if e = none ∧ s.state.isTerminal then [.delete user s.id] else []

def ops (c : Crowd) : Move → List Registry.Op
  | .begin now =>
    match c.sim.drawVisitor.2 with
    | none => []
    | some user => beginOps c.sim.drawVisitor.1 user now
  | .send place =>
    match c.underway[place]? with
    | none => []
    | some u =>
      if (attempt c.sim u).2 ∧ u.step.event.action.endsSession then
        [.delete u.step.user u.step.event.session]
      else []
  | .sweep now => [.sweep now]
  | .lookUp user now => [.obtain user now]
  | .receive | .close | .grow _ => []

lemma advance_write (sim : Simulation) (n : Nat) (now : Time) :
    sim.registry.update n (fun _ => (sim.advance n now).1.registry.session n) =
      (sim.advance n now).1.registry := by
  obtain ⟨s, hs⟩ : ∃ s, (sim.advance n now).1.registry = sim.registry.update n fun _ => s := by
    rcases ha : sim.advance n now with ⟨sim', _ | e⟩
    · exact ⟨_, (Simulation.advance_none ha).2.2⟩
    · obtain ⟨-, -, s', -, hs⟩ := Simulation.advance_some ha
      exact ⟨s', hs⟩
  rw [hs]
  exact Registry.update_session _ _ _

lemma run_beginOps (sim : Simulation) (user : String) (now : Time) :
    sim.registry.run (beginOps sim user now) =
      let (sim₁, n) := sim.obtain user now
      match sim₁.advance n now with
      | (sim₂, none) => (sim₂.retire user n).registry
      | (sim₂, some _) => sim₂.registry := by
  have hw := advance_write (sim.obtain user now).1 (sim.obtain user now).2 now
  simp only [beginOps, Registry.run_cons, Registry.perform, ← Simulation.obtain_registry, hw]
  rcases (sim.obtain user now).1.advance (sim.obtain user now).2 now with ⟨sim₂, _ | e⟩
  · simp only [Simulation.retire_registry, true_and]
    split_ifs <;> rfl
  · simp

/-- To the registry, a move is what it does to it. -/
lemma perform_registry (c : Crowd) (m : Move) :
    (c.perform m).sim.registry = c.sim.registry.run (c.ops m) := by
  cases m with
  | begin now =>
    have h : (c.perform (.begin now)).sim = (c.sim.begin now).1 := by
      simp only [perform]
      rcases c.sim.begin now with ⟨sim, o | p⟩ <;> rfl
    rw [h]
    rcases c.sim.begin_cases now with ⟨hn, e⟩ | ⟨user, hu, ⟨sim₂, ha, e⟩ | ⟨sim₂, ev, ha, e⟩⟩ <;>
      rw [e]
    · simp [ops, hn, Simulation.drawVisitor_registry]
    all_goals
      have hr := run_beginOps c.sim.drawVisitor.1 user now
      rw [Simulation.drawVisitor_registry] at hr
      simp only [ops, hu, hr, ha]
    · exact Simulation.countMove_registry _ _
  | send place =>
    rcases h : c.underway[place]? with _ | u
    · simp [perform, ops, h]
    · rw [perform_send_sim h]
      simp only [ops, h]
      rcases ha : (attempt c.sim u).2 with _ | _
      · simp [(attempt_blocked ha).2.2]
      · rw [(attempt_ended ha).2.2]
        split_ifs <;> simp_all [Registry.perform]
  | receive =>
    simp only [perform]
    split <;> rfl
  | close => rfl
  | sweep now => exact c.sim.sweep_registry now
  | lookUp user now => exact c.sim.obtain_registry user now
  | grow least => exact c.sim.ensureVisitors_registry least

/-- Only deletions are no removals of the history. -/
lemma filter_departures (r : Registry) (op : Registry.Op) :
    (r.departures op).filter (·.way ≠ .deleted) =
      match op with
      | .delete _ _ => []
      | _ => r.departures op := by
  cases op with
  | obtain user now =>
    refine List.filter_eq_self.mpr fun d hd => ?_
    obtain ⟨n, -, rfl⟩ := List.mem_map.mp hd
    dsimp only
    split_ifs <;> rfl
  | sweep now =>
    refine List.filter_eq_self.mpr fun d hd => ?_
    obtain ⟨n, -, rfl⟩ := List.mem_map.mp hd
    rfl
  | delete user session =>
    refine List.filter_eq_nil_iff.mpr fun d hd => ?_
    obtain ⟨n, -, rfl⟩ := List.mem_map.mp hd
    exact Bool.false_ne_true
  | write n f => rfl

/-- The removals of a move are the sessions that leave the tables. -/
lemma departed_ops (c : Crowd) (m : Move) :
    ((c.sim.registry.departed (c.ops m)).filter (·.way ≠ .deleted)).map (·.way) =
      (c.facts m).filterMap Fact.way? := by
  cases m with
  | begin now =>
    have hend : ((match (c.sim.begin now).2 with
        | .inl o => [.returned none o]
        | .inr p => [.produced p.event]) : List Fact).filterMap Fact.way? = [] := by
      cases (c.sim.begin now).2 <;> rfl
    simp only [facts, ops, replaced, List.cons_append, List.filterMap_cons, List.filterMap_append,
      Fact.way?, hend, List.append_nil]
    rcases c.sim.drawVisitor.2 with _ | user
    · rfl
    · simp only [beginOps, Registry.departed_cons, List.filter_append, filter_departures,
        Registry.filterMap_removals]
      split_ifs <;>
        simp only [Registry.departed_cons, Registry.departed_nil, Registry.departures_write,
          filter_departures, List.filter_nil, List.append_nil]
  | send place =>
    rcases h : c.underway[place]? with _ | u
    · simp [facts, ops, h]
    · have hreturned : ((verdict c.sim u).toList.map (Fact.returned u.step.event)).filterMap
          Fact.way? = [] := by
        cases verdict c.sim u <;> rfl
      simp only [facts, ops, h, hreturned]
      split_ifs
      · simp only [Registry.departed_cons, Registry.departed_nil, List.append_nil,
          filter_departures, List.map_nil]
      · rfl
  | sweep now | lookUp user now =>
    simp only [facts, ops, Registry.departed_cons, Registry.departed_nil, List.append_nil,
      filter_departures, Registry.filterMap_removals]
  | receive | close | grow => rfl

lemma run_ops (c : Crowd) (moves : List Move) :
    (c.run moves).sim.registry = c.sim.registry.run (yields perform ops c moves) := by
  induction moves generalizing c with
  | nil => rfl
  | cons m moves ih => rw [run_cons, ih, perform_registry, yields, Registry.run_append]

lemma departed_run (c : Crowd) (moves : List Move) :
    ((c.sim.registry.departed (yields perform ops c moves)).filter (·.way ≠ .deleted)).map
      (·.way) = (c.history moves).filterMap Fact.way? := by
  induction moves generalizing c with
  | nil => rfl
  | cons m moves ih =>
    rw [yields, Registry.departed_append, List.filter_append, List.map_append, departed_ops,
      ← perform_registry, ih, ← List.filterMap_append]
    rfl

/-- **The counters are exact.** However the steps of a run overlap, and at every moment of it: the
sessions counted as started are those opened by look-ups and the searches submitted; the sessions
counted as completed are those that look-ups found to have expired, those that sweeps removed, and
the exits whose steps have returned; a move from one place to another is counted as often as events
tell of it, and staying is not counted; and the only errors are the steps that were refused because
the queue was closed. Each step that has begun is under way or has returned in one of four ways, and
one that returns without an event changes no count of moves or errors. The sessions that are
registered and those that have left the tables are all that were opened, each once, and those that
have left otherwise than by a deletion are the removals that are counted, one by one. -/
theorem run_accounts (sim : Simulation) (ttl : Time) (moves : List Move) :
    let start : Crowd := { sim := { sim with registry := { ttl }, metrics := {} } }
    let c := start.run moves
    let fs := start.history moves
    let gone := start.sim.registry.departed (yields perform ops start moves)
    c.sim.metrics.counts.started = c.sim.registry.created.size + fs.countP Fact.isSearch ∧
    c.sim.metrics.counts.completed =
      fs.countP (Fact.isRemoved .lapsed) + fs.countP (Fact.isRemoved .swept) +
        fs.countP Fact.isExit ∧
    (∀ p q, c.sim.metrics.counts.transitionCount p q =
      if p = q then 0 else fs.countP (Fact.isMove p q)) ∧
    (∀ kind, c.sim.errorsOf kind =
      if kind = "queue_closed" then fs.countP (Fact.isReturned .queueClosed) else 0) ∧
    fs.countP Fact.isBegun = c.underway.length + (fs.countP (Fact.isReturned .noUser) +
      fs.countP (Fact.isReturned .noTransition) + fs.countP (Fact.isReturned .emitted) +
        fs.countP (Fact.isReturned .queueClosed)) ∧
    (∀ m e o, .returned e o ∈ c.facts m → o = .noUser ∨ o = .noTransition →
      (∀ p q, (c.perform m).sim.metrics.counts.transitionCount p q =
        c.sim.metrics.counts.transitionCount p q) ∧
      ∀ kind, (c.perform m).sim.errorsOf kind = c.sim.errorsOf kind) ∧
    (c.sim.registry.registered ++ gone.map (·.session)).Perm
      (List.range c.sim.registry.created.size) ∧
    (gone.filter (·.way ≠ .deleted)).map (·.way) = fs.filterMap Fact.way? := by
  intro start c fs gone
  have h : start.sim.Counted fs c.sim := start.history_counted moves
  have hsteps : c.underway.length + fs.countP Fact.isReturn = fs.countP Fact.isBegun := by
    simpa [start] using start.history_underway moves
  have hgone : (c.sim.registry.registered ++ gone.map (·.session)).Perm
      (List.range c.sim.registry.created.size) := by
    have hr : c.sim.registry = _ := start.run_ops moves
    rw [hr]
    exact ((Registry.settled_empty ttl).run _).perm
  refine ⟨?_, ?_, fun p q => ?_, fun kind => ?_, ?_, fun m e o hm ho => perform_eventless hm ho,
    hgone, start.departed_run moves⟩
  · simpa [start] using h.started
  · simpa [start, Simulation.completed] using h.completed
  · simpa [start, Snapshot.transitionCount] using h.transitions p q
  · simpa [start, Simulation.errorsOf] using h.errors kind
  · rw [← hsteps, Fact.countP_isReturn]

end Crowd

end ShopTraffic
