import ShopTraffic.Proofs.Behaviour.Visits
import ShopTraffic.Proofs.Simulation.Order

/-!
Every session is a visit by itself. Whatever steps overlap, the session with a number and the events
that carry its id are a visit that has gone through some turns: looking the session up prolongs it,
a step moves it on, and nothing that happens to other sessions touches it.
-/

namespace ShopTraffic

open ShopTraffic.Random

/-- Every session is new, or the one that was there before, or that one prolonged. -/
def Registry.Tended (r r' : Registry) : Prop :=
  ∀ n < r'.created.size,
    n < r.created.size ∧ (r'.session n = r.session n ∨
      ∃ now ttl, r'.session n = (r.session n).touch now ttl) ∨
    r.created.size ≤ n ∧ ∃ id user now ttl, r'.session n = Session.begin id user now ttl

namespace Registry

variable {r r' : Registry}

lemma tended_of_eq (h : r'.created = r.created) : r.Tended r' := by
  intro n hn
  refine .inl ⟨h ▸ hn, .inl ?_⟩
  rw [session, session, h]

lemma openSession_tended (r : Registry) (user : String) (now : Time) :
    r.Tended (r.openSession user now).1 := by
  intro n hn
  rw [openSession_created_size] at hn
  rcases Nat.lt_succ_iff_lt_or_eq.mp hn with hlt | rfl
  · exact .inl ⟨hlt, .inl (session_openSession_old user now hlt)⟩
  · exact .inr ⟨Nat.le_refl _, _, _, _, _, session_openSession_new user now⟩

lemma Sound.obtain_tended (h : r.Sound) (user : String) (now : Time) :
    r.Tended (r.obtain user now).1 := by
  rcases h.obtain_cases user now with
    ⟨id, m, -, hm, -, e⟩ | ⟨-, e⟩ | ⟨id, m, -, hm, -, -, e⟩ <;> rw [e]
  · intro n hn
    rw [update_size] at hn
    refine .inl ⟨hn, ?_⟩
    by_cases hnm : m = n
    · subst hnm
      exact .inr ⟨now, r.ttl, session_update_self hn _⟩
    · exact .inl (session_update_ne hnm _)
  · exact r.openSession_tended user now
  · exact (r.without id m).openSession_tended user now

end Registry

/-- Moving a session on is a turn of its visit. -/
lemma Simulation.advance_turn (sim : Simulation) (n : Nat) (now : Time) (events : List Event) :
    let v := Visit.perform sim.table ⟨sim.registry.session n, events⟩
      (.step now sim.engineSource sim.payloadSource)
    (sim.advance n now).1.registry = sim.registry.update n (fun _ => v.session) ∧
      v.events = events ++ (sim.advance n now).2.toList := by
  simp only [Visit.perform, advance]
  rcases (sim.registry.session n).step sim.table now sim.engineSource with ⟨⟨s, _ | e⟩, source⟩
  · exact ⟨rfl, (List.append_nil _).symm⟩
  · exact ⟨rfl, rfl⟩

namespace Weave

/-- Each session with its events is a visit. -/
structure Visited (w : Weave) : Prop where
  chained : w.Chained
  visit : ∀ n < w.sim.registry.created.size,
    Visit.Reached w.sim.table
      ⟨w.sim.registry.session n, w.story (w.sim.registry.session n).id⟩

variable {w w' : Weave} {m : Move} {n : Nat} {now : Time}

lemma story_new (h : w.Chained) {session : String}
    (hnew : ∀ n < w.sim.registry.created.size, (w.sim.registry.session n).id ≠ session) :
    w.story session = [] := by
  refine List.filter_eq_nil_iff.mpr fun e he => ?_
  obtain ⟨x, hx, rfl⟩ := List.mem_map.mp he
  obtain ⟨n, hn, hid⟩ := h.told x hx
  simpa [hid] using hnew n hn

/-- No event is made. -/
lemma Visited.still (h : w.Visited) (hg : w.Goes w') (ht : w'.sim.table = w.sim.table)
    (hm : w'.made = w.made) (hr : w.sim.registry.Tended w'.sim.registry) : w'.Visited := by
  have hstory : w'.story = w.story := funext fun session => by rw [story, story, hm]
  refine ⟨h.chained.still hg hm, fun n hn => ?_⟩
  rw [hstory, ht]
  rcases hr n hn with ⟨hold, he⟩ | ⟨hnew, id, user, now, ttl, he⟩
  · rw [hg.grows.id n hold]
    rcases he with he | ⟨now, ttl, he⟩ <;> rw [he]
    · exact h.visit n hold
    · exact (h.visit n hold).perform (.renew now ttl)
  · have hnone : w.story (w'.sim.registry.session n).id = [] := by
      refine story_new h.chained fun k hk hid => ?_
      rw [← hg.grows.id k hk] at hid
      have := hg.sound.number_eq (Nat.lt_of_lt_of_le hk hg.grows.size) hn hid
      omega
    rw [hnone, he]
    exact Visit.reached_start w.sim.table id user now ttl

/-- A session is moved on, and the event that is made carries its id. -/
lemma Visited.turned (h : w.Visited) (hg : w.Goes w') (hc : w'.Chained)
    (ht : w'.sim.table = w.sim.table) (hn : n < w.sim.registry.created.size) {v : Visit}
    (hv : Visit.Reached w.sim.table v)
    (hr : w'.sim.registry = w.sim.registry.update n fun _ => v.session)
    (hstory : w'.story (w.sim.registry.session n).id = v.events)
    (hothers : ∀ session ≠ (w.sim.registry.session n).id, w'.story session = w.story session) :
    w'.Visited := by
  refine ⟨hc, fun k hk => ?_⟩
  rw [hr, Registry.update_size] at hk
  rw [ht, hg.grows.id k hk]
  by_cases hkn : n = k
  · subst hkn
    rw [hstory, hr, Registry.session_update_self hn]
    exact hv
  · rw [hothers _ fun hid => hkn (h.chained.sane.sound.number_eq hk hn hid).symm, hr,
      Registry.session_update_ne hkn]
    exact h.visit k hk

lemma Visited.perform (h : w.Visited) (m : Move) : (w.perform m).Visited := by
  have hg := h.chained.sane.perform_goes m
  have hc := h.chained.perform m
  have he := w.perform_effect m
  have ht := he.table
  generalize w.perform m = w' at he hg hc ht ⊢
  cases he with
  | aside m sim hb =>
    exact h.still hg ht rfl (Registry.tended_of_eq (congrArg Registry.created hb.registry))
  | find user now sim hu hr =>
    exact h.still hg ht rfl (hr ▸ h.chained.sane.sound.obtain_tended user now)
  | lookUp user now sim hu hr =>
    exact h.still hg ht rfl (hr ▸ h.chained.sane.sound.obtain_tended user now)
  | sweep now sim hu hr =>
    exact h.still hg ht rfl (Registry.tended_of_eq (hr ▸ w.sim.registry.sweep_created now))
  | stuck place user n now sim s hp ha =>
    have hn := (h.chained.sane.known _ (List.mem_of_getElem? hp)).1
    obtain ⟨hr, hevents⟩ := w.sim.advance_turn n now (w.story (w.sim.registry.session n).id)
    rw [ha] at hr hevents
    exact h.turned hg hc ht hn ((h.visit n hn).perform _) hr
      ((List.append_nil _).symm.trans hevents.symm) fun _ _ => rfl
  | move place user n now sim e hp ha =>
    have hn := (h.chained.sane.known _ (List.mem_of_getElem? hp)).1
    obtain ⟨hr, hevents⟩ := w.sim.advance_turn n now (w.story (w.sim.registry.session n).id)
    rw [ha] at hr hevents
    have hid : e.session = (w.sim.registry.session n).id := by
      obtain ⟨-, -, s', hs, -⟩ := Simulation.advance_some ha
      exact hs.told.2.1.trans hs.id
    refine h.turned hg hc ht hn ((h.visit n hn).perform _) hr ?_ fun session hne => ?_
    · rw [hevents, story_append (w := w) rfl, if_pos hid]
      rfl
    · rw [story_append (w := w) rfl, if_neg (hid ▸ Ne.symm hne), List.append_nil]
  | leave place user session hp =>
    exact h.still hg ht rfl (Registry.tended_of_eq (w.sim.registry.delete_created user session))
  | finish place p taken hp =>
    refine h.still hg ht rfl (Registry.tended_of_eq ?_)
    have hr := w.sim.finish_registry p taken
    split at hr
    · exact (congrArg Registry.created hr).trans (w.sim.registry.delete_created _ _)
    · exact congrArg Registry.created hr
  | receive | close | wait | offer => exact h.still hg ht rfl (Registry.tended_of_eq rfl)

lemma start_visited (T : Table) (ttl : Time) (capacity : Nat) (visitors : Visitors)
    (users engine payloads : Source) :
    (start T ttl capacity visitors users engine payloads).Visited where
  chained := start_chained T ttl capacity visitors users engine payloads
  visit n hn := absurd hn (Nat.not_lt_zero n)

lemma run_visited (h : w.Visited) (moves : List Move) : (w.run moves).Visited := by
  induction moves generalizing w with
  | nil => exact h
  | cons m moves ih => exact ih (h.perform m)

lemma run_table (w : Weave) (moves : List Move) : (w.run moves).sim.table = w.sim.table := by
  induction moves generalizing w with
  | nil => rfl
  | cons m moves ih => exact (ih (w.perform m)).trans (w.perform_effect m).table

/-- Every session with an event is one that was created. -/
lemma Visited.reached (h : w.Visited) {session : String} (hs : w.story session ≠ []) :
    ∃ s, Visit.Reached w.sim.table ⟨s, w.story session⟩ := by
  obtain ⟨e, he⟩ := List.exists_mem_of_ne_nil _ hs
  obtain ⟨hmade, hsession⟩ := List.mem_filter.mp he
  obtain ⟨x, hx, rfl⟩ := List.mem_map.mp hmade
  obtain ⟨n, hn, hid⟩ := h.chained.told x hx
  have := h.visit n hn
  rw [hid, of_decide_eq_true hsession] at this
  exact ⟨_, this⟩

/-- **The events of a session form one walk** through the behaviour model, whatever steps overlap:
each begins where the one before it led to, the first of them at the start, and takes a transition
with a weight above zero; without a target it leads back to where the one before it began. Nobody
is ever outside. In the ticket shop nothing follows an exit, and the exit events are those that lead
to the exit. -/
theorem run_walks (T : Table) (hT : T.LeadsInside) (ttl : Time) (capacity : Nat)
    (visitors : Visitors) (users engine payloads : Source) (moves : List Move) :
    let w := (start T ttl capacity visitors users engine payloads).run moves
    ∀ session,
      (∀ before e after, w.story session = before ++ e :: after →
        e.previous = ((before.getLast?).map (·.state)).getD .browsing ∧
        ∃ t ∈ T.transitions e.previous, t.weight > 0 ∧ t.action = e.action ∧
          e.state = t.target.getD (((before.getLast?).map (·.previous)).getD .browsing)) ∧
      (∀ e ∈ w.story session, e.state ≠ .outside ∧ e.previous ≠ .outside) ∧
      (T = .standard →
        (∀ before e after, w.story session = before ++ e :: after → e.action = .exit →
          after = []) ∧
        ∀ e ∈ w.story session, e.action = .exit ↔ e.state = .exit) := by
  intro w session
  have hv : w.Visited := run_visited (start_visited T ttl capacity visitors users engine payloads) _
  have hwalk : T.Walk (w.story session) := by
    by_cases hs : w.story session = []
    · rw [hs]
      exact T.walk_nil
    · obtain ⟨s, hs⟩ := hv.reached hs
      have ht : w.sim.table = T := run_table _ moves
      rw [ht] at hs
      exact (hs.walking hT).walk
  refine ⟨fun before e after hsplit => ?_, hwalk.inside hT, ?_⟩
  · obtain ⟨hprevious, t, hmem, hpossible, haction, hstate⟩ := hwalk before e after hsplit
    exact ⟨hprevious, t, hmem, of_decide_eq_true hpossible, haction, hstate⟩
  · rintro rfl
    exact hwalk.exits Table.standard_exitsOnly

/-- Two steps that overlap move one visitor from the start to a product and on to the cart. -/
theorem run_walks_twice :
    Table.standard.LeadsInside ∧
    let w := corner.run [.begin 0, .begin 0, .go 0, .go 1]
    ∃ e e', w.story e.session = [e, e'] ∧ e.previous = .browsing ∧ e'.previous = e.state ∧
      (∃ t ∈ Table.standard.transitions .click, t.weight > 0 ∧ t.action = e'.action ∧
        e'.state = t.target.getD .browsing) ∧
      e'.action ≠ .exit := by
  obtain ⟨sim₁, e, h₁, ht, -, hs, hid, -, hclick, ha⟩ := corner_first
  obtain ⟨sim₂, e', h₂, -, hid₂, hp₂, hst₂⟩ := go_second
    { sim := sim₁, steps := [.sending 0 ⟨"user_1", e⟩ false, .found "user_1" 0 0]
      made := [⟨e, []⟩] } rfl ht hs ha
  have hrun : (corner.run [.begin 0, .begin 0, .go 0, .go 1]).story e.session = [e, e'] := by
    have h : corner.run [.begin 0, .begin 0, .go 0, .go 1] =
        (corner.run [.begin 0, .begin 0, .go 0]).perform (.go 1) := rfl
    rw [h, h₁, h₂]
    simp [story, setStage, hid₂.trans hid]
  obtain ⟨hwalk, -, hexit⟩ := run_walks .standard Table.standard_leadsInside 10 2 ⟨#["user_1"]⟩
    (.seeded 0) (.seeded 1) (.seeded 0) [.begin 0, .begin 0, .go 0, .go 1] e.session
  obtain ⟨hfirst, -⟩ := hwalk [] e [e'] hrun
  obtain ⟨hsecond, t, hmem, hweight, haction, hstate⟩ := hwalk [e] e' [] hrun
  rw [hp₂] at hmem
  refine ⟨Table.standard_leadsInside, e, e', hrun, hfirst, hsecond,
    ⟨t, hmem, hweight, haction, hstate.trans ?_⟩, fun hx => ?_⟩
  · exact congrArg t.target.getD hfirst
  · have hmade : e' ∈ (corner.run [.begin 0, .begin 0, .go 0, .go 1]).story e.session := by
      rw [hrun]
      exact List.mem_cons_of_mem _ (List.mem_singleton_self e')
    have := ((hexit rfl).2 e' hmade).mp hx
    rw [hst₂] at this
    cases this

end Weave

end ShopTraffic
