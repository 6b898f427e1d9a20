import ShopTraffic.Proofs.Registry.Alike
import ShopTraffic.Proofs.Simulation.Completions

/-!
The ends of steps may be put off. When a visitor leaves, the session stays registered until the
step has sent its event, and that can take any time. Meanwhile the session is over, so it is never
found again: it makes no difference to the events when it is removed, or if it is.

Two runs are compared by what they draw from, which is the same, and by their registries, which are
alike.
-/

namespace ShopTraffic

open ShopTraffic.Random

namespace Simulation

/-- Steps draw from the same sources, and have the same visitors and the same behaviour model. -/
structure SameDraws (sim sim' : Simulation) : Prop where
  table : sim'.table = sim.table
  visitors : sim'.visitors = sim.visitors
  userSource : sim'.userSource = sim.userSource
  engineSource : sim'.engineSource = sim.engineSource
  payloadSource : sim'.payloadSource = sim.payloadSource

/-- No step can tell the simulations apart. -/
structure Alike (sim sim' : Simulation) : Prop where
  draws : sim.SameDraws sim'
  registry : sim.registry.Alike sim'.registry

variable {sim sim' : Simulation} {user : String} {now : Time} {n : Nat}

lemma finish_draws (sim : Simulation) (p : Pending) (sent : Bool) :
    sim.SameDraws (sim.finish p sent).1 := by
  unfold finish
  cases sent <;> dsimp only <;> split <;> exact ⟨rfl, rfl, rfl, rfl, rfl⟩

lemma Alike.drawVisitor (h : sim.Alike sim') :
    sim'.drawVisitor.2 = sim.drawVisitor.2 ∧ sim.drawVisitor.1.Alike sim'.drawVisitor.1 := by
  have hdraw : sim'.visitors.draw sim'.userSource = sim.visitors.draw sim.userSource := by
    rw [h.draws.visitors, h.draws.userSource]
  refine ⟨congrArg Prod.fst hdraw, ⟨h.draws.table, h.draws.visitors, ?_, h.draws.engineSource,
    h.draws.payloadSource⟩, h.registry⟩
  exact (congrArg Prod.snd hdraw :)

lemma countOrigin_draws (sim : Simulation) (user : String) (o : Origin) :
    sim.SameDraws (sim.countOrigin user o) := by
  cases o <;> exact ⟨rfl, rfl, rfl, rfl, rfl⟩

lemma obtain_draws (sim : Simulation) (user : String) (now : Time) :
    sim.SameDraws (sim.obtain user now).1 := by
  have h := countOrigin_draws { sim with registry := (sim.registry.obtain user now).1 } user
    (sim.registry.obtain user now).2.2
  exact ⟨h.table, h.visitors, h.userSource, h.engineSource, h.payloadSource⟩

lemma SameDraws.congr {sim₁ sim₁' : Simulation} (h : sim.SameDraws sim') (h₁ : sim.SameDraws sim₁)
    (h₁' : sim'.SameDraws sim₁') : sim₁.SameDraws sim₁' where
  table := by rw [h₁.table, h₁'.table, h.table]
  visitors := by rw [h₁.visitors, h₁'.visitors, h.visitors]
  userSource := by rw [h₁.userSource, h₁'.userSource, h.userSource]
  engineSource := by rw [h₁.engineSource, h₁'.engineSource, h.engineSource]
  payloadSource := by rw [h₁.payloadSource, h₁'.payloadSource, h.payloadSource]

lemma Alike.obtain (h : sim.Alike sim') (user : String) (now : Time) :
    (sim'.obtain user now).2 = (sim.obtain user now).2 ∧
      (sim.obtain user now).1.Alike (sim'.obtain user now).1 := by
  obtain ⟨hhandle, hregistry⟩ := h.registry.obtain user now
  refine ⟨hhandle, h.draws.congr (obtain_draws ..) (obtain_draws ..), ?_⟩
  rw [obtain_registry, obtain_registry]
  exact hregistry

lemma advance_of_none {s : Session} {source : Source}
    (hs : (sim.registry.session n).step sim.table now sim.engineSource = ((s, none), source)) :
    sim.advance n now =
      ({ sim with
          engineSource := source, registry := sim.registry.update n fun _ => s }, none) := by
  rw [advance, hs]

lemma advance_of_some {s : Session} {e : Event} {source source' : Source} {g : Payload.Generated}
    (hs : (sim.registry.session n).step sim.table now sim.engineSource = ((s, some e), source))
    (hg : Payload.generate e.action s sim.payloadSource = (g, source')) :
    sim.advance n now =
      ({ sim with
          engineSource := source, payloadSource := source'
          registry := sim.registry.update n fun _ => g.session
          notices := (g.unmatched.map Notice.keywordUnmatched).toList ++ sim.notices },
        some (e.withExtra g.fields)) := by
  rw [advance, hs]
  simp only [hg]

/-- The visitor makes the same move in both, if nothing leads back from the exit. -/
lemma Alike.advance (h : sim.Alike sim')
    (hx : (sim.registry.session n).state = .exit → sim.table.transitions .exit = [])
    (now : Time) : (sim'.advance n now).2 = (sim.advance n now).2 ∧
      (sim.advance n now).1.Alike (sim'.advance n now).1 := by
  have hm := Session.step_moved sim.table (sim.registry.session n) now sim.engineSource
  have hstep : (sim'.registry.session n).step sim'.table now sim'.engineSource =
      (sim.registry.session n).step sim.table now sim.engineSource := by
    rw [h.registry.session, h.draws.table, h.draws.engineSource]
  have henter : (sim.registry.session n).state = .exit →
      (sim.registry.session n).enter.state = .exit := fun hexit => by simp [Session.enter, hexit]
  rcases hs : (sim.registry.session n).step sim.table now sim.engineSource with
    ⟨⟨s, _ | e⟩, source⟩ <;> rw [hs] at hm
  · obtain rfl : s = _ := hm
    rw [advance_of_none hs, advance_of_none (hstep.trans hs)]
    exact ⟨rfl, ⟨h.draws.table, h.draws.visitors, h.draws.userSource, rfl, h.draws.payloadSource⟩,
      h.registry.update ⟨rfl, rfl⟩ henter⟩
  · have hinside : (sim.registry.session n).state ≠ .exit := by
      intro hexit
      obtain ⟨t, hmem, -⟩ := hm.1.taken
      rw [henter hexit, hx hexit] at hmem
      cases hmem
    rcases hg : Payload.generate e.action s sim.payloadSource with ⟨g, source'⟩
    have hkeeps := Payload.generate_keeps s e.action sim.payloadSource
    rw [hg] at hkeeps
    have hdescribed := hm.1.described hkeeps []
    rw [advance_of_some hs hg,
      advance_of_some (hstep.trans hs) (by rw [h.draws.payloadSource]; exact hg)]
    exact ⟨rfl, ⟨h.draws.table, h.draws.visitors, h.draws.userSource, rfl, rfl⟩,
      h.registry.update ⟨hdescribed.id, hdescribed.user⟩ fun hexit => absurd hexit hinside⟩

lemma sameDraws_refl (sim : Simulation) : sim.SameDraws sim := ⟨rfl, rfl, rfl, rfl, rfl⟩

/-- What is queued makes no difference. -/
lemma Alike.queued (h : sim.Alike sim') (output : Queue Event) :
    ({ sim with output } : Simulation).Alike sim' :=
  ⟨h.draws.congr ⟨rfl, rfl, rfl, rfl, rfl⟩ (sameDraws_refl sim'), h.registry⟩

lemma retire_draws (sim : Simulation) (user : String) (n : Nat) :
    sim.SameDraws (sim.retire user n) := by
  unfold retire
  dsimp only
  split <;> exact ⟨rfl, rfl, rfl, rfl, rfl⟩

/-- What is over is taken out of both. -/
lemma Alike.retire (h : sim.Alike sim') (hn : n < sim.registry.created.size) :
    (sim.retire (sim.registry.session n).user n).Alike
      (sim'.retire (sim.registry.session n).user n) where
  draws := h.draws.congr (retire_draws ..) (retire_draws ..)
  registry := by
    rw [retire_registry, retire_registry, h.registry.session]
    split
    · next hx =>
      exact h.registry.delete_both hn (by simpa [State.isTerminal] using hx)
    · exact h.registry

lemma countMove_draws (sim : Simulation) (e : Event) : sim.SameDraws (sim.countMove e) := by
  unfold countMove
  dsimp only
  split <;> split <;> exact ⟨rfl, rfl, rfl, rfl, rfl⟩

/-- **A step begins in the same way in both**: it makes the same event, or ends for the same
reason. -/
lemma Alike.begin (h : sim.Alike sim') (now : Time) :
    (sim'.begin now).2 = (sim.begin now).2 ∧ (sim.begin now).1.Alike (sim'.begin now).1 := by
  obtain ⟨huser, h₁⟩ := h.drawVisitor
  rcases hd : sim.drawVisitor with ⟨sim₁, user?⟩
  rcases hd' : sim'.drawVisitor with ⟨sim₁', user?'⟩
  rw [hd, hd'] at huser h₁
  obtain rfl : user?' = user? := huser
  cases user?' with
  | none =>
    unfold Simulation.begin
    rw [hd, hd']
    exact ⟨rfl, h₁⟩
  | some user =>
    have ho := h₁.registry.sound.obtained user now
    obtain ⟨hhandle, h₂⟩ := h₁.obtain user now
    rw [← obtain_registry, ← obtain_handle] at ho
    rcases hf : sim₁.obtain user now with ⟨sim₂, n⟩
    rcases hf' : sim₁'.obtain user now with ⟨sim₂', n'⟩
    rw [hf, hf'] at hhandle h₂
    rw [hf] at ho
    obtain rfl : n' = n := hhandle
    obtain ⟨hevent, h₃⟩ := h₂.advance (fun hexit => absurd hexit ho.inside) now
    rcases ha : sim₂.advance n' now with ⟨sim₃, e⟩
    rcases ha' : sim₂'.advance n' now with ⟨sim₃', e'⟩
    rw [ha, ha'] at hevent h₃
    obtain rfl : e' = e := hevent
    simp only [Simulation.begin, hd, hd', hf, hf', ha, ha']
    cases e' with
    | none =>
      obtain ⟨-, -, hr⟩ := advance_none ha
      have hn : n' < sim₃.registry.created.size := by
        rw [hr, Registry.update_size]
        exact ho.handle
      have hu : (sim₃.registry.session n').user = user := by
        rw [hr, Registry.session_update_self ho.handle]
        exact ho.user
      exact ⟨rfl, hu ▸ h₃.retire hn⟩
    | some e =>
      exact ⟨rfl, h₃.draws.congr (countMove_draws ..) (countMove_draws ..),
        h₃.registry⟩

lemma sweep_draws (sim : Simulation) (now : Time) : sim.SameDraws (sim.sweep now).1 := by
  unfold sweep
  dsimp only
  split <;> exact ⟨rfl, rfl, rfl, rfl, rfl⟩

lemma Alike.sweep (h : sim.Alike sim') (now : Time) :
    (sim.sweep now).1.Alike (sim'.sweep now).1 where
  draws := h.draws.congr (sweep_draws ..) (sweep_draws ..)
  registry := by
    rw [sweep_registry, sweep_registry]
    exact h.registry.sweep now

lemma Alike.ensureVisitors (h : sim.Alike sim') (least : Nat) :
    (sim.ensureVisitors least).1.Alike (sim'.ensureVisitors least).1 := by
  unfold Simulation.ensureVisitors
  rw [h.draws.visitors]
  split
  · exact ⟨⟨h.draws.table, rfl, h.draws.userSource, h.draws.engineSource, h.draws.payloadSource⟩,
      h.registry⟩
  · exact h

end Simulation

namespace Crowd

/-- The move is made as a whole while nothing else happens. The others end a step, or concern the
queue alone. -/
def Move.isLocked : Move → Bool
  | begin _ | sweep _ | lookUp _ _ | grow _ => true
  | send _ | receive | close => false

def madeBy (c : Crowd) : Move → List Event
  | .begin now =>
    match (c.sim.begin now).2 with
    | .inl _ => []
    | .inr p => [p.event]
  | .send _ | .receive | .close | .sweep _ | .lookUp _ _ | .grow _ => []

def made (c : Crowd) : List Move → List Event
  | [] => []
  | m :: moves => c.madeBy m ++ (c.perform m).made moves

variable {c c' : Crowd} {es : List Entry}

lemma perform_begin_sim (c : Crowd) (now : Time) :
    (c.perform (.begin now)).sim = (c.sim.begin now).1 := by
  simp only [perform]
  rcases c.sim.begin now with ⟨sim, _ | p⟩ <;> rfl

/-- A locked move makes the same events in both, and leaves them alike. -/
lemma perform_locked (h : c.sim.Alike c'.sim) {m : Move} (hm : m.isLocked = true) :
    c'.madeBy m = c.madeBy m ∧ (c.perform m).sim.Alike (c'.perform m).sim := by
  cases m with
  | begin now =>
    obtain ⟨hmade, halike⟩ := h.begin now
    rw [perform_begin_sim, perform_begin_sim, madeBy, madeBy, hmade]
    exact ⟨rfl, halike⟩
  | sweep now => exact ⟨rfl, h.sweep now⟩
  | lookUp user now => exact ⟨rfl, (h.obtain user now).2⟩
  | grow least => exact ⟨rfl, h.ensureVisitors least⟩
  | send place | receive | close => cases hm

lemma attempt_draws (sim : Simulation) (u : Underway) : sim.SameDraws (attempt sim u).1 := by
  rcases attempt_cases sim u with ⟨output, e⟩ | ⟨output, sent, e⟩ <;> rw [e]
  · exact ⟨rfl, rfl, rfl, rfl, rfl⟩
  · have h := Simulation.finish_draws { sim with output } u.step sent
    exact ⟨h.table, h.visitors, h.userSource, h.engineSource, h.payloadSource⟩

lemma mem_steps {place : Nat} {u : Underway} (hu : c.underway[place]? = some u) :
    u.step ∈ c.steps :=
  List.mem_map.mpr ⟨u, List.mem_of_getElem? hu, rfl⟩

/-- A step that makes a visitor leave is the visitor's own, and the visitor is at the exit. -/
lemma Books.at_exit {r : Registry} {steps : List Pending} (h : Books r steps es) {p : Pending}
    (hp : p ∈ steps) (he : p.event.action.endsSession = true) :
    ∃ n < r.created.size, (r.session n).id = p.event.session ∧ (r.session n).user = p.user ∧
      (r.session n).state = .exit := by
  obtain ⟨n, hn, hid, huser⟩ := h.owned p hp he
  have hleaver : p.event.session ∈ leavers steps es :=
    List.mem_append_right _ (List.mem_map.mpr ⟨p, List.mem_filter.mpr ⟨hp, he⟩, rfl⟩)
  obtain ⟨m, hm, hmid, hexit⟩ := h.left _ hleaver
  obtain rfl := h.sound.number_eq hn hm (hid.trans hmid.symm)
  exact ⟨n, hn, hid, huser, hexit⟩

/-- The end of a step cannot be told from its delay. -/
lemma perform_unlocked (ha : c.Audited es) (h : c.sim.Alike c'.sim) {m : Move}
    (hm : m.isLocked = false) : c.madeBy m = [] ∧ (c.perform m).sim.Alike c'.sim := by
  cases m with
  | send place =>
    refine ⟨rfl, ?_⟩
    -- if the step ends and its visitor has left, the session is removed on this side only
    rcases hu : c.underway[place]? with _ | u
    · simp only [perform, hu]
      exact h
    rw [perform_send_sim hu]
    refine ⟨h.draws.congr (attempt_draws ..) (Simulation.sameDraws_refl _), ?_⟩
    rcases hended : (attempt c.sim u).2
    · rw [(attempt_blocked hended).2.2]
      exact h.registry
    · rw [(attempt_ended hended).2.2]
      split
      · next he =>
        obtain ⟨n, hn, hid, huser, hexit⟩ := ha.books.at_exit (mem_steps hu) he
        rw [← hid, ← huser]
        exact h.registry.delete hn hexit
      · exact h.registry
  | receive =>
    refine ⟨rfl, ?_⟩
    simp only [perform]
    split
    · exact h
    · exact h.queued _
  | close => exact ⟨rfl, h.queued _⟩
  | begin now | sweep now | lookUp user now | grow least => cases hm

/-- The events of a run are those of its locked moves alone. -/
lemma made_eq_made_locked (ha : c.Audited es) (h : c.sim.Alike c'.sim) (moves : List Move) :
    c.made moves = c'.made (moves.filter Move.isLocked) := by
  induction moves generalizing c c' es with
  | nil => rfl
  | cons m moves ih =>
    rcases hm : m.isLocked
    · obtain ⟨hnone, halike⟩ := perform_unlocked ha h hm
      rw [List.filter_cons_of_neg (by simp [hm]), made, hnone, ih (ha.perform m) halike,
        List.nil_append]
    · obtain ⟨hsame, halike⟩ := perform_locked h hm
      rw [List.filter_cons_of_pos hm, made, made, hsame, ih (ha.perform m) halike]

/-- **It makes no difference to the events when the steps end.** Take two runs of the ticket shop
from the same seeds, with the same beginnings of steps, sweeps and look-ups at the same times.
Between them the steps may end at other places, in another order or never, and the queue may be
larger or smaller, slower or closed: the events that are made are the same, one by one. -/
theorem made_eq_of_locked (ttl : Time) (capacity capacity' : Nat) (visitors : Visitors)
    (users engine payloads : Source) (moves moves' : List Move)
    (h : moves.filter Move.isLocked = moves'.filter Move.isLocked) :
    (start ttl capacity visitors users engine payloads).made moves =
      (start ttl capacity' visitors users engine payloads).made moves' := by
  have hbare : ∀ capacity moves, (start ttl capacity visitors users engine payloads).made moves =
      (start ttl 0 visitors users engine payloads).made (moves.filter Move.isLocked) := by
    intro capacity moves
    refine made_eq_made_locked (start_audited ttl capacity visitors users engine payloads) ?_ moves
    exact ⟨⟨rfl, rfl, rfl, rfl, rfl⟩, (Registry.sound_empty ttl).alike⟩
  rw [hbare capacity moves, hbare capacity' moves', h]

/-- A shop whose only visitor leaves at once, and comes again later. -/
def revisited : Crowd := start 10 1 ⟨#["user_1"]⟩ (.seeded 0) (.seeded 2) (.seeded 0)

lemma revisited_begin :
    ∃ sim e, revisited.sim.begin 0 = (sim, .inr ⟨"user_1", e⟩) ∧ e.action = .exit ∧
      e.session = "sess_user_1_0_1" ∧ sim.output = { capacity := 1 } ∧
      sim.registry.sessions["sess_user_1_0_1"]? = some 0 := by
  have hdraw : revisited.sim.drawVisitor.2 = some "user_1" := by decide +kernel
  have hid : revisited.sim.registry.newId "user_1" 0 = "sess_user_1_0_1" := by decide +kernel
  have hstep : ((Session.begin "sess_user_1_0_1" "user_1" 0 10).step .standard 0
      (.seeded 2)).1.2.map (·.action) = some .exit := by decide +kernel
  obtain ⟨sim, e, s', hb, ha, hm, hr⟩ :=
    Simulation.begin_new hdraw (by simp [revisited, start]) (by rw [hid]; exact hstep)
  rw [hid] at hm
  have hout := (revisited.sim.begin_undisturbed 0).output
  rw [hb] at hout
  refine ⟨sim, e, hb, ha, hm.told.2.1.trans hm.id, hout, ?_⟩
  rw [hr, Registry.update_sessions, Registry.openSession_sessions, if_pos hid]
  rfl

/-- The visitor comes again after the first visit was removed, or while it is still registered: the
events are the same. -/
theorem made_eq_of_locked_revisited :
    let early := [Move.begin 0, .send 0, .begin 1]
    let late := [Move.begin 0, .begin 1, .sweep 1, .send 0]
    let never := [Move.begin 0, .begin 1, .sweep 1]
    late.filter Move.isLocked = never.filter Move.isLocked ∧
    revisited.made late = revisited.made never ∧
    revisited.made early = revisited.made [.begin 0, .begin 1] ∧
    (∃ e rest, revisited.made early = e :: rest ∧ e.action = .exit) ∧
    (revisited.run [.begin 0]).sim.registry.sessions["sess_user_1_0_1"]? = some 0 ∧
    (revisited.run [.begin 0, .send 0]).sim.registry.sessions["sess_user_1_0_1"]? = none := by
  intro early late never
  have hlate : late.filter Move.isLocked = never.filter Move.isLocked := rfl
  obtain ⟨sim, e, hb, ha, he, hout, hs⟩ := revisited_begin
  have h₁ : revisited.perform (.begin 0) = ⟨sim, [{ step := ⟨"user_1", e⟩ }]⟩ := by
    simp only [perform, hb]
    rfl
  have hsend : (attempt sim { step := ⟨"user_1", e⟩ }).2 = true := by
    simp [attempt, Simulation.send, hout, Queue.hasRoom, Queue.used]
  refine ⟨hlate, made_eq_of_locked 10 1 1 _ _ _ _ late never hlate,
    made_eq_of_locked 10 1 1 _ _ _ _ early _ rfl, ⟨e, _, by rw [made, madeBy, hb]; rfl, ha⟩, ?_, ?_⟩
  · rw [run_cons, run_nil, h₁]
    exact hs
  · rw [run_cons, run_cons, run_nil, h₁, perform_send_sim rfl, (attempt_ended hsend).2.2,
      if_pos (by rw [ha]; rfl), Registry.delete_sessions, if_pos he]

end Crowd

end ShopTraffic
