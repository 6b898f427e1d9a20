import ShopTraffic.Proofs.Behaviour.Moves
import ShopTraffic.Proofs.Metrics.Tallies
import ShopTraffic.Proofs.Registry.Growth
import ShopTraffic.Simulation

/-!
What each part of a step does to the registry, to the count of completed sessions, and to what the
consumers of the output queue see.
-/

namespace ShopTraffic.Simulation

open ShopTraffic.Random

variable {sim sim' sim'' : Simulation}

def completed (sim : Simulation) : Nat := sim.metrics.counts.completed

/-- Nothing has been sent, published or counted as an error, and the behaviour model is the
same. -/
structure Undisturbed (sim sim' : Simulation) : Prop where
  table : sim'.table = sim.table
  output : sim'.output = sim.output
  events : sim'.metrics.counts.events = sim.metrics.counts.events
  errors : sim'.metrics.counts.errors = sim.metrics.counts.errors

lemma undisturbed_refl (sim : Simulation) : sim.Undisturbed sim := ⟨rfl, rfl, rfl, rfl⟩

lemma Undisturbed.trans (h : sim.Undisturbed sim') (h' : sim'.Undisturbed sim'') :
    sim.Undisturbed sim'' :=
  ⟨h'.table.trans h.table, h'.output.trans h.output, h'.events.trans h.events,
    h'.errors.trans h.errors⟩

/-! ### Looking a visitor's session up -/

lemma drawVisitor_undisturbed (sim : Simulation) : sim.Undisturbed sim.drawVisitor.1 :=
  ⟨rfl, rfl, rfl, rfl⟩

lemma drawVisitor_registry (sim : Simulation) : sim.drawVisitor.1.registry = sim.registry := rfl

lemma countOrigin_undisturbed (sim : Simulation) (user : String) (o : Origin) :
    sim.Undisturbed (sim.countOrigin user o) := by
  cases o <;> exact ⟨rfl, rfl, rfl, rfl⟩

lemma obtain_undisturbed (sim : Simulation) (user : String) (now : Time) :
    sim.Undisturbed (sim.obtain user now).1 := by
  have h := countOrigin_undisturbed { sim with registry := (sim.registry.obtain user now).1 } user
    (sim.registry.obtain user now).2.2
  exact ⟨h.table, h.output, h.events, h.errors⟩

lemma obtain_registry (sim : Simulation) (user : String) (now : Time) :
    (sim.obtain user now).1.registry = (sim.registry.obtain user now).1 := by
  simp only [obtain]
  cases (sim.registry.obtain user now).2.2 <;> rfl

lemma obtain_handle (sim : Simulation) (user : String) (now : Time) :
    (sim.obtain user now).2 = (sim.registry.obtain user now).2.1 := rfl

lemma obtain_completed (sim : Simulation) (user : String) (now : Time) :
    (sim.obtain user now).1.completed =
      sim.completed + (sim.registry.obtain user now).2.2.replaced.toList.length := by
  simp only [obtain]
  cases (sim.registry.obtain user now).2.2 <;> rfl

/-! ### Moving the session on -/

variable {handle : Nat} {now : Time} {e : Event}

/-- The session may have entered the shop, and nothing else has happened. -/
lemma advance_none (h : sim.advance handle now = (sim', none)) :
    sim.Undisturbed sim' ∧ sim'.completed = sim.completed ∧
      sim'.registry = sim.registry.update handle fun _ => (sim.registry.session handle).enter := by
  have hm := Session.step_moved sim.table (sim.registry.session handle) now sim.engineSource
  unfold advance at h
  split at h
  · next s source hs =>
    obtain rfl : _ = sim' := congrArg Prod.fst h
    rw [hs] at hm
    obtain rfl : s = _ := hm
    exact ⟨⟨rfl, rfl, rfl, rfl⟩, rfl, rfl⟩
  · cases (congrArg Prod.snd h : some _ = none)

/-- The session has moved, and the event tells of the move. -/
lemma advance_some (h : sim.advance handle now = (sim', some e)) :
    sim.Undisturbed sim' ∧ sim'.completed = sim.completed ∧
      ∃ s', (sim.registry.session handle).Moved sim.table now s' e ∧
        sim'.registry = sim.registry.update handle fun _ => s' := by
  have hm := Session.step_moved sim.table (sim.registry.session handle) now sim.engineSource
  unfold advance at h
  split at h
  · cases (congrArg Prod.snd h : none = some e)
  · next s e₀ source hs =>
    obtain rfl : _ = sim' := congrArg Prod.fst h
    obtain rfl : _ = e := Option.some.inj (congrArg Prod.snd h)
    rw [hs] at hm
    exact ⟨⟨rfl, rfl, rfl, rfl⟩, rfl, _,
      hm.1.described (Payload.generate_keeps s e₀.action sim.payloadSource) _, rfl⟩

/-- The action does not depend on the payload. -/
lemma advance_action (sim : Simulation) (handle : Nat) (now : Time) :
    (sim.advance handle now).2.map (·.action) =
      ((sim.registry.session handle).step sim.table now sim.engineSource).1.2.map (·.action) := by
  unfold advance
  split
  · next h => rw [h]
  · next h =>
    rw [h]
    rfl

/-- What is remembered for payloads is all that the session has besides what its step came to. -/
lemma advance_stepped (h : sim.advance handle now = (sim', some e)) :
    ∃ s₁ e₁ source s',
      (sim.registry.session handle).step sim.table now sim.engineSource = ((s₁, some e₁), source) ∧
      e.action = e₁.action ∧ s'.bare = s₁.bare ∧ sim'.engineSource = source ∧
      sim'.registry = sim.registry.update handle fun _ => s' := by
  unfold advance at h
  split at h
  · cases (congrArg Prod.snd h : none = some e)
  · next s e₀ source hs =>
    obtain rfl : _ = sim' := congrArg Prod.fst h
    obtain rfl : _ = e := Option.some.inj (congrArg Prod.snd h)
    have hkeeps := Payload.generate_keeps s e₀.action sim.payloadSource
    exact ⟨s, e₀, source, _, hs, rfl, hkeeps, rfl, rfl⟩

lemma retire_undisturbed (sim : Simulation) (user : String) (handle : Nat) :
    sim.Undisturbed (sim.retire user handle) ∧
      (sim.retire user handle).completed = sim.completed := by
  unfold retire
  dsimp only
  split
  · exact ⟨⟨rfl, rfl, rfl, rfl⟩, rfl⟩
  · exact ⟨sim.undisturbed_refl, rfl⟩

lemma retire_registry (sim : Simulation) (user : String) (handle : Nat) :
    (sim.retire user handle).registry =
      if (sim.registry.session handle).state.isTerminal then
        (sim.registry.delete user (sim.registry.session handle).id).1
      else sim.registry := by
  unfold retire
  dsimp only
  split <;> rfl

lemma countMove_undisturbed (sim : Simulation) (e : Event) :
    sim.Undisturbed (sim.countMove e) ∧ (sim.countMove e).completed = sim.completed := by
  unfold countMove
  dsimp only
  split <;> split <;> exact ⟨⟨rfl, rfl, rfl, rfl⟩, rfl⟩

lemma countMove_registry (sim : Simulation) (e : Event) :
    (sim.countMove e).registry = sim.registry := rfl

/-- The three ways in which the first part of a step can go. -/
lemma begin_cases (sim : Simulation) (now : Time) :
    (sim.drawVisitor.2 = none ∧ sim.begin now = (sim.drawVisitor.1, .inl .noUser)) ∨
    ∃ user, sim.drawVisitor.2 = some user ∧
      ((∃ sim₂, (sim.drawVisitor.1.obtain user now).1.advance
            (sim.drawVisitor.1.obtain user now).2 now = (sim₂, none) ∧
          sim.begin now =
            (sim₂.retire user (sim.drawVisitor.1.obtain user now).2, .inl .noTransition)) ∨
        ∃ sim₂ e, (sim.drawVisitor.1.obtain user now).1.advance
            (sim.drawVisitor.1.obtain user now).2 now = (sim₂, some e) ∧
          sim.begin now = (sim₂.countMove e, .inr ⟨user, e⟩)) := by
  unfold begin
  rcases hd : sim.drawVisitor with ⟨sim₁, _ | user⟩
  · exact .inl ⟨rfl, rfl⟩
  · refine .inr ⟨user, rfl, ?_⟩
    rcases ho : sim₁.obtain user now with ⟨sim₂, handle⟩
    rcases ha : sim₂.advance handle now with ⟨sim₃, _ | e⟩
    · exact .inl ⟨sim₃, rfl, by simp only [ho, ha]⟩
    · exact .inr ⟨sim₃, e, rfl, by simp only [ho, ha]⟩

/-- A step that ends at its beginning has sent nothing. -/
lemma begin_ends {o : Outcome} (h : (sim.begin now).2 = .inl o) :
    o = .noUser ∨ o = .noTransition := by
  rcases sim.begin_cases now with ⟨-, hb⟩ | ⟨user, -, ⟨sim₂, -, hb⟩ | ⟨sim₂, e, -, hb⟩⟩ <;>
    rw [hb] at h <;> cases h
  · exact .inl rfl
  · exact .inr rfl

/-- Nothing is sent while a step begins. -/
lemma begin_undisturbed (sim : Simulation) (now : Time) : sim.Undisturbed (sim.begin now).1 := by
  have hd := sim.drawVisitor_undisturbed
  rcases sim.begin_cases now with ⟨-, h⟩ | ⟨user, -, ⟨sim₂, ha, h⟩ | ⟨sim₂, e, ha, h⟩⟩ <;> rw [h]
  · exact hd
  · exact ((hd.trans (obtain_undisturbed _ user now)).trans (advance_none ha).1).trans
      (retire_undisturbed _ _ _).1
  · exact ((hd.trans (obtain_undisturbed _ user now)).trans (advance_some ha).1).trans
      (countMove_undisturbed _ _).1

lemma obtain_new (sim : Simulation) {user : String} (hu : sim.registry.users[user]? = none)
    (now : Time) :
    sim.obtain user now =
      ({ sim with
          registry := (sim.registry.openSession user now).1, metrics := sim.metrics.started },
        sim.registry.created.size) := by
  simp [obtain, Registry.obtain, hu, countOrigin]

/-- The first step of a visitor who has no session. -/
lemma begin_new {user : String} {a : Action} (hd : sim.drawVisitor.2 = some user)
    (hu : sim.registry.users[user]? = none)
    (ha : ((Session.begin (sim.registry.newId user now) user now sim.registry.ttl).step sim.table
      now sim.engineSource).1.2.map (·.action) = some a) :
    ∃ sim' e s', sim.begin now = (sim', .inr ⟨user, e⟩) ∧ e.action = a ∧
      (Session.begin (sim.registry.newId user now) user now sim.registry.ttl).Moved sim.table now
        s' e ∧
      sim'.registry =
        (sim.registry.openSession user now).1.update sim.registry.created.size fun _ => s' := by
  have ho := obtain_new sim.drawVisitor.1 hu now
  have hact := advance_action (sim.drawVisitor.1.obtain user now).1 sim.registry.created.size now
  rcases sim.begin_cases now with ⟨hd', -⟩ | ⟨user', hd', h⟩
  · rw [hd] at hd'
    cases hd'
  obtain rfl := Option.some.inj (hd.symm.trans hd')
  rw [ho] at h hact
  dsimp only [drawVisitor_registry] at h hact
  rw [Registry.session_openSession_new] at hact
  rcases h with ⟨sim₂, hs, -⟩ | ⟨sim₂, e, hs, h⟩
  · rw [hs] at hact
    cases hact.trans ha
  · rw [hs] at hact
    obtain ⟨-, -, s', hm, hr⟩ := advance_some hs
    dsimp only at hm hr
    rw [Registry.session_openSession_new] at hm
    exact ⟨_, e, s', h, Option.some.inj (hact.trans ha), hm, hr⟩

/-! ### After the event was sent -/

lemma finish_registry (sim : Simulation) (p : Pending) (sent : Bool) :
    (sim.finish p sent).1.registry =
      if p.event.action.endsSession then (sim.registry.delete p.user p.event.session).1
      else sim.registry := by
  unfold finish
  cases sent <;> dsimp only <;> split <;> rfl

lemma finish_completed (sim : Simulation) (p : Pending) (sent : Bool) :
    (sim.finish p sent).1.completed =
      sim.completed + if p.event.action.endsSession then 1 else 0 := by
  unfold finish
  cases sent <;> dsimp only <;> split <;> rfl

lemma finish_table (sim : Simulation) (p : Pending) (sent : Bool) :
    (sim.finish p sent).1.table = sim.table := by
  unfold finish
  cases sent <;> dsimp only <;> split <;> rfl

lemma finish_output (sim : Simulation) (p : Pending) (sent : Bool) :
    (sim.finish p sent).1.output = sim.output := by
  unfold finish
  cases sent <;> dsimp only <;> split <;> rfl

lemma finish_events (sim : Simulation) (p : Pending) (sent : Bool) :
    (sim.finish p sent).1.metrics.counts.events = sim.metrics.counts.events := by
  unfold finish
  cases sent <;> dsimp only <;> split <;> rfl

def errorsOf (sim : Simulation) (kind : String) : Nat := sim.metrics.counts.errors.getD kind 0

lemma errors_error (m : Metrics) (kind kind' : String) :
    (m.error kind).counts.errors.getD kind' 0 =
      m.counts.errors.getD kind' 0 + if kind = kind' then 1 else 0 :=
  getD_tally m.counts.errors kind kind'

/-- A refused event, and no other, is counted as an error. -/
lemma finish_errors (sim : Simulation) (p : Pending) (sent : Bool) (kind : String) :
    (sim.finish p sent).1.errorsOf kind =
      sim.errorsOf kind + if sent = false ∧ "queue_closed" = kind then 1 else 0 := by
  have h : (sim.finish p sent).1.errorsOf kind =
      (if sent then sim.metrics else sim.metrics.error "queue_closed").counts.errors.getD
        kind 0 := by
    unfold finish errorsOf
    cases sent <;> dsimp only <;> split <;> rfl
  rw [h]
  cases sent with
  | true => rfl
  | false => simp [errors_error, errorsOf]

/-- The three ways in which sending can go. -/
lemma send_cases (sim : Simulation) (p : Pending) :
    (sim.output.closed = true ∧
      sim.send p = ((sim.finish p false).1, .finished .queueClosed)) ∨
    (sim.output.closed = false ∧
      sim.send p =
        (({ sim with output := sim.output.push p.event }.finish p true).1, .finished .emitted)) ∨
    (sim.output.closed = false ∧
      sim.send p = ({ sim with output := sim.output.wait }, .blocked)) := by
  unfold send
  split_ifs with hc hr
  · exact .inl ⟨hc, rfl⟩
  · exact .inr (.inl ⟨by simpa using hc, rfl⟩)
  · exact .inr (.inr ⟨by simpa using hc, rfl⟩)

/-- The three ways in which waiting for a slot can go. -/
lemma resume_cases (sim : Simulation) (p : Pending) :
    (sim.output.closed = true ∧
      sim.resume? p =
        some (({ sim with output := sim.output.abandon }.finish p false).1, .queueClosed)) ∨
    (sim.output.closed = false ∧
      sim.resume? p =
        some (({ sim with output := sim.output.deliver p.event }.finish p true).1, .emitted)) ∨
    sim.resume? p = none := by
  unfold resume?
  split_ifs with hc hg
  · exact .inl ⟨hc, rfl⟩
  · exact .inr (.inl ⟨by simpa using hc, rfl⟩)
  · exact .inr (.inr rfl)

/-! ### Between steps -/

lemma completedTimes_counts (m : Metrics) (n : Nat) :
    (m.completedTimes n).counts = { m.counts with completed := m.counts.completed + n } := by
  induction n generalizing m with
  | zero => rfl
  | succ n ih =>
    rw [Metrics.completedTimes, ih]
    simp [Metrics.completed, Nat.add_assoc, Nat.add_comm 1 n]

lemma sweep_registry (sim : Simulation) (now : Time) :
    (sim.sweep now).1.registry = (sim.registry.sweep now).1 := by
  unfold sweep
  dsimp only
  split <;> rfl

lemma sweep_completed (sim : Simulation) (now : Time) :
    (sim.sweep now).1.completed = sim.completed + (sim.registry.sweep now).2 := by
  unfold sweep completed
  dsimp only
  split <;> simp [note, Metrics.activeSessions, completedTimes_counts]

lemma sweep_undisturbed (sim : Simulation) (now : Time) : sim.Undisturbed (sim.sweep now).1 := by
  unfold sweep
  dsimp only
  split <;> constructor <;> simp [note, Metrics.activeSessions, completedTimes_counts]

lemma ensureVisitors_undisturbed (sim : Simulation) (least : Nat) :
    sim.Undisturbed (sim.ensureVisitors least).1 := by
  unfold ensureVisitors
  split
  · exact ⟨rfl, rfl, rfl, rfl⟩
  · exact sim.undisturbed_refl

lemma ensureVisitors_registry (sim : Simulation) (least : Nat) :
    (sim.ensureVisitors least).1.registry = sim.registry := by
  unfold ensureVisitors
  split <;> rfl

lemma ensureVisitors_completed (sim : Simulation) (least : Nat) :
    (sim.ensureVisitors least).1.completed = sim.completed := by
  unfold ensureVisitors
  split <;> rfl

end ShopTraffic.Simulation
