import ShopTraffic.Proofs.Registry.Renewal
import ShopTraffic.Proofs.Simulation.Crowd

/-!
Until when a session counts as live. A look-up sets the time of the last event and the expiry
together; the move that follows sets the time of the last event once more and leaves the expiry
alone. The look-up and the move of a step are one part here and read one clock, so a session always
expires a time to live after its last event.

The clocks that different steps and sweeps read may go forwards and backwards as they like, and any
table may say where visitors go.
-/

namespace ShopTraffic

/-! ### Steps -/

namespace Simulation

variable {sim : Simulation} {ttl : Time}

/-- A look-up and a move at one time: the move sets the last time to what it is already. -/
lemma begin_sliding (h : sim.registry.Sliding ttl) (now : Time) :
    (sim.begin now).1.registry.Sliding ttl := by
  rcases sim.begin_cases now with ⟨-, hb⟩ | ⟨user, -, hb⟩
  · rw [hb]
    exact h
  have ho := h.obtain user now
  rcases hb with ⟨sim₂, ha, hb⟩ | ⟨sim₂, e, ha, hb⟩ <;> rw [hb]
  · obtain ⟨-, -, hr⟩ := advance_none ha
    rw [obtain_registry, obtain_handle] at hr
    have hw : sim₂.registry.Sliding ttl := hr ▸ ho.enter _
    rw [retire_registry]
    split
    · exact hw.delete user _
    · exact hw
  · obtain ⟨-, -, s', hm, hr⟩ := advance_some ha
    rw [obtain_registry, obtain_handle] at hr hm
    rw [countMove_registry, hr]
    exact ho.move hm (h.traced.renewed user now).lastEvent

lemma begin_time {now : Time} {p : Pending} (hp : (sim.begin now).2 = .inr p) :
    p.event.time = now := by
  rcases sim.begin_cases now with ⟨-, hb⟩ | ⟨user, -, ⟨sim₂, -, hb⟩ | ⟨sim₂, e, ha, hb⟩⟩ <;>
    rw [hb] at hp <;> cases hp
  obtain ⟨-, -, s', hm, -⟩ := advance_some ha
  exact hm.told.2.2.2.2

end Simulation

namespace Crowd

variable {c : Crowd} {ttl : Time}

lemma perform_sliding (h : c.sim.registry.Sliding ttl) (m : Move) :
    (c.perform m).sim.registry.Sliding ttl := by
  cases m with
  | begin now =>
    have hb := Simulation.begin_sliding h now
    simp only [perform]
    split <;> next hs => rwa [hs] at hb
  | send place =>
    cases hp : c.underway[place]? with
    | none => simpa [perform, hp] using h
    | some u =>
      rw [perform_send_sim hp]
      rcases ha : (attempt c.sim u).2 with _ | _
      · rw [(attempt_blocked ha).2.2]
        exact h
      · rw [(attempt_ended ha).2.2]
        split
        · exact h.delete _ _
        · exact h
  | receive =>
    simp only [perform]
    split <;> exact h
  | close => exact h
  | sweep now =>
    show (c.sim.sweep now).1.registry.Sliding ttl
    rw [Simulation.sweep_registry]
    exact h.sweep now
  | lookUp user now =>
    show (c.sim.obtain user now).1.registry.Sliding ttl
    rw [Simulation.obtain_registry]
    exact h.obtain user now
  | grow least =>
    show (c.sim.ensureVisitors least).1.registry.Sliding ttl
    rw [Simulation.ensureVisitors_registry]
    exact h

lemma run_sliding (h : c.sim.registry.Sliding ttl) (moves : List Move) :
    (c.run moves).sim.registry.Sliding ttl := by
  induction moves generalizing c with
  | nil => exact h
  | cons m moves ih => exact ih (perform_sliding h m)

/-- **A session expires a time to live after its last event**, in every run of a simulation that
starts without sessions, whatever the table and whatever the clocks show. So if sessions live at
all, a session whose last event is not at the end of time expires after it; a look-up before the end
of time gives a session of the visitor, who is inside, and it has not expired by then; and an event
tells the time of its step. -/
theorem run_expiry {ttl : Time} (hc : c.sim.registry = { ttl }) (ht : 0 ≤ ttl) (moves : List Move) :
    let sim := (c.run moves).sim
    (∀ (id : String) (n : Nat), sim.registry.sessions[id]? = some n →
      (sim.registry.session n).expiry.toInt =
        min Int64.maxValue.toInt ((sim.registry.session n).lastEvent.toInt + ttl.toInt)) ∧
    (0 < ttl → ∀ (id : String) (n : Nat), sim.registry.sessions[id]? = some n →
      (sim.registry.session n).lastEvent < Int64.maxValue →
        (sim.registry.session n).lastEvent < (sim.registry.session n).expiry) ∧
    (0 < ttl → ∀ user, ∀ now < Int64.maxValue,
      let r := (sim.obtain user now).1.registry
      let n := (sim.obtain user now).2
      r.sessions[(r.session n).id]? = some n ∧ (r.session n).user = user ∧
        (r.session n).state.isTerminal = false ∧ (r.session n).isExpired now = false) ∧
    ∀ now p, (sim.begin now).2 = .inr p → p.event.time = now := by
  intro sim
  have h : sim.registry.Sliding ttl := run_sliding (hc ▸ Registry.sliding_empty ttl) moves
  have hslides {id : String} {n : Nat} (hn : sim.registry.sessions[id]? = some n) :
      (sim.registry.session n).expiry = later (sim.registry.session n).lastEvent ttl :=
    h.slides n (h.traced.named hn).1
  refine ⟨fun id n hn => ?_, fun hpos id n hn hlast => ?_, fun hpos user now hnow => ?_,
    fun now p => Simulation.begin_time⟩
  · rw [hslides hn]
    exact later_toInt (Int64.le_iff_toInt_le.mp ht) _
  · rw [hslides hn]
    exact lt_later hpos hlast
  · have ho := h.traced.renewed user now
    rw [← Simulation.obtain_registry, ← Simulation.obtain_handle] at ho
    refine ⟨ho.registered, ho.user, ho.inside, decide_eq_false ?_⟩
    rw [ho.expiry, h.ttl_eq]
    exact Int64.not_le.mpr (lt_later hpos hnow)

/-- Ann comes again at an earlier time than before. -/
theorem run_expiry_backwards :
    let sim := ((start 10 1 {} (.seeded 0) (.seeded 0) (.seeded 0)).run
      [.lookUp "ann" 5, .lookUp "ann" (-3)]).sim
    (0 : Time) ≤ 10 ∧ sim.registry.sessions["sess_ann_5_1"]? = some 0 ∧
      (sim.registry.session 0).lastEvent = -3 ∧ (sim.registry.session 0).expiry.toInt = 7 := by
  intro sim
  have hid : ({ ttl := 10 } : Registry).newId "ann" 5 = "sess_ann_5_1" := by decide +kernel
  have hr : sim.registry =
      ((({ ttl := 10 } : Registry).obtain "ann" 5).1.obtain "ann" (-3)).1 := by
    show (Simulation.obtain (Simulation.obtain _ "ann" 5).1 "ann" (-3)).1.registry = _
    rw [Simulation.obtain_registry, Simulation.obtain_registry]
    rfl
  have hlive : (Session.begin "sess_ann_5_1" "ann" 5 10).isLive (-3) = true := by decide
  have hnow : sim.registry.sessions["sess_ann_5_1"]? = some 0 ∧
      (sim.registry.session 0).lastEvent = -3 := by
    rw [hr]
    simp [Registry.obtain, Registry.openSession, Registry.update, Registry.session, hid, hlive,
      Session.touch]
  obtain ⟨hexpiry, -⟩ := run_expiry (c := start 10 1 {} (.seeded 0) (.seeded 0) (.seeded 0)) rfl
    (by decide : (0 : Time) ≤ 10) [.lookUp "ann" 5, .lookUp "ann" (-3)]
  refine ⟨by decide, hnow.1, hnow.2, ?_⟩
  rw [hexpiry "sess_ann_5_1" 0 hnow.1, hnow.2]
  decide

end Crowd

end ShopTraffic
