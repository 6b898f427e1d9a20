import ShopTraffic.Proofs.Registry.Alike
import ShopTraffic.Proofs.Simulation.Visits

/-!
Sessions that are still registered although their visitors have left. Such a session is removed by
the step that made its exit event, after the event was sent; and a full queue can hold up the event
for any time. A sweep does not ask where visitors are. It removes what has expired, so a session
whose exit event is on its way outlives the sweep unless its time is over.

There is no other way for such a session to be left: once the step has come to its end, the session
is gone. What has to be shown for that is said of exit events, which stay what they are.
-/

namespace ShopTraffic

open ShopTraffic.Random

/-- The step has made the exit event of the session, and has not come to its end. -/
def Stage.Ends (session : String) : Stage → Prop
  | sending _ p _ | sent p _ => p.event.action.endsSession = true ∧ p.event.session = session
  | found _ _ _ | leaving _ _ | ended => False

/-- A sweep removes what has expired, wherever its visitor is. -/
lemma Registry.sweep_keeps_iff {r : Registry} {id : String} {n : Nat}
    (hn : r.sessions[id]? = some n) (now : Time) :
    (r.sweep now).1.sessions[id]? = some n ↔ now < (r.session n).expiry := by
  have hexpired : id ∈ r.expired now ↔ (r.session n).expiry ≤ now := by
    simp [mem_expired, hn, Session.isExpired]
  rw [sweep_sessions, hn, ← Int64.not_le, ← hexpired]
  split
  · next hx => exact iff_of_false (Option.some_ne_none n).symm (not_not_intro hx)
  · next hx => exact iff_of_true rfl hx

namespace Weave

/-- Where an exit event was made, its step is under way or the session is not registered. -/
def Settles (w : Weave) : Prop :=
  ∀ x ∈ w.made, x.event.action.endsSession = true →
    (∃ s ∈ w.steps, s.Ends x.event.session) ∨ w.sim.registry.sessions[x.event.session]? = none

variable {w w' : Weave} {m : Move} {place : Nat} {s s' old : Stage}

lemma eq_or_mem_set (hs : s ∈ w.steps) (hp : w.steps[place]? = some old) (new : Stage) :
    s = old ∨ s ∈ w.steps.set place new := by
  obtain ⟨i, hi⟩ := List.mem_iff_getElem?.mp hs
  by_cases h : place = i
  · subst h
    exact .inl (Option.some.inj (hi.symm.trans hp))
  · exact .inr (List.mem_of_getElem? ((List.getElem?_set_ne h).trans hi))

lemma mem_set (hp : w.steps[place]? = some old) (new : Stage) : new ∈ w.steps.set place new :=
  List.mem_set (List.getElem?_eq_some_iff.mp hp).1 new

/-- A session that is gone stays gone, so only the steps matter. -/
lemma Settles.keep (h : w.Settles) (hc : w.Chained) (hg : w.Goes w')
    (hs : ∀ s ∈ w.steps, ∀ id, s.Ends id →
      (∃ s' ∈ w'.steps, s'.Ends id) ∨ w'.sim.registry.sessions[id]? = none)
    {x : Made} (hx : x ∈ w.made) (he : x.event.action.endsSession = true) :
    (∃ s ∈ w'.steps, s.Ends x.event.session) ∨
      w'.sim.registry.sessions[x.event.session]? = none := by
  rcases h x hx he with ⟨s, hmem, hends⟩ | hgone
  · exact hs s hmem _ hends
  · obtain ⟨n, hn, hid⟩ := hc.told x hx
    have := hg.grows.gone n hn
    rw [hid] at this
    exact .inr (this hgone)

lemma Settles.perform (h : w.Settles) (hc : w.Chained) (m : Move) : (w.perform m).Settles := by
  have hg := hc.sane.perform_goes m
  have he := w.perform_effect m
  generalize w.perform m = w' at he hg ⊢
  have hkeep := @Settles.keep w w' h hc hg
  cases he with
  | aside | lookUp | sweep | receive | close =>
    exact fun x => hkeep fun s hs id hx => .inl ⟨s, hs, hx⟩
  | find => exact fun x => hkeep fun s hs id hx => .inl ⟨s, List.mem_append_left _ hs, hx⟩
  | stuck place user n now sim s₁ hp | leave place user session hp =>
    refine fun x => hkeep fun s hs id hx => ?_
    rcases eq_or_mem_set hs hp _ with rfl | hs
    · cases hx
    · exact .inl ⟨s, hs, hx⟩
  | move place user n now sim e hp ha =>
    intro x hx hexit
    rcases List.mem_append.mp hx with hx | hx
    · refine hkeep (fun s hs id hx => ?_) hx hexit
      rcases eq_or_mem_set hs hp _ with rfl | hs
      · cases hx
      · exact .inl ⟨s, hs, hx⟩
    · rw [List.mem_singleton.mp hx] at hexit ⊢
      exact .inl ⟨_, mem_set hp _, hexit, rfl⟩
  | wait place n p waits output hp | offer place n p waits taken output hp =>
    refine fun x => hkeep fun s hs id hx => .inl ?_
    rcases eq_or_mem_set hs hp _ with rfl | hs
    · exact ⟨_, mem_set hp _, hx⟩
    · exact ⟨s, hs, hx⟩
  | finish place p taken hp =>
    refine fun x => hkeep fun s hs id hx => ?_
    rcases eq_or_mem_set hs hp _ with rfl | hs
    · obtain ⟨hends, rfl⟩ := hx
      refine .inr ?_
      show (w.sim.finish p taken).1.registry.sessions[p.event.session]? = none
      rw [Simulation.finish_registry, if_pos hends, Registry.delete_sessions, if_pos rfl]
    · exact .inl ⟨s, hs, hx⟩

lemma run_settles (h : w.Settles) (hc : w.Chained) (moves : List Move) : (w.run moves).Settles := by
  induction moves generalizing w with
  | nil => exact h
  | cons m moves ih => exact ih (h.perform hc m) (hc.perform m)

/-- Whoever is at the exit has come there by an exit event. -/
lemma Visited.exit_made (h : w.Visited) (hin : w.sim.table.LeadsInside)
    (hT : w.sim.table.ExitsOnly) {n : Nat} (hn : n < w.sim.registry.created.size)
    (hx : (w.sim.registry.session n).state = .exit) :
    ∃ x ∈ w.made, x.event.action.endsSession = true ∧
      x.event.session = (w.sim.registry.session n).id := by
  let events := w.story (w.sim.registry.session n).id
  have hw := (h.visit n hn).walking hin
  have hreached : reachedBy events = .exit := hw.state.symm.trans hx
  rcases List.eq_nil_or_concat events with hnil | ⟨before, e, hlast⟩
  · rw [hnil] at hreached
    cases hreached
  rw [List.concat_eq_append] at hlast
  have hmem : e ∈ events := by simp [hlast]
  rw [hlast, reachedBy_concat] at hreached
  have hexit : e.action = .exit := ((hw.walk.exits hT).2 e hmem).mpr hreached
  obtain ⟨hmade, hsession⟩ := List.mem_filter.mp hmem
  obtain ⟨x, hxm, rfl⟩ := List.mem_map.mp hmade
  exact ⟨x, hxm, decide_eq_true hexit, of_decide_eq_true hsession⟩

/-- **A sweep leaves a session whose visitor has left only while its exit event is on its way.** It
removes what has expired, wherever visitors are. So a session that is still registered after it and
has its visitor at the exit has not expired by then, and the step that made its exit event has not
come to its end: the event is still to be sent, or the step is about to remove the session. -/
theorem run_leftovers {T : Table} (hin : T.LeadsInside) (hT : T.ExitsOnly) (ttl : Time)
    (capacity : Nat) (visitors : Visitors) (users engine payloads : Source) (moves : List Move)
    (now : Time) :
    let w := (start T ttl capacity visitors users engine payloads).run moves
    let r := (w.perform (.sweep now)).sim.registry
    (∀ (id : String) (n : Nat), w.sim.registry.sessions[id]? = some n →
      (r.sessions[id]? = some n ↔ now < (w.sim.registry.session n).expiry)) ∧
    ∀ (id : String) (n : Nat), r.sessions[id]? = some n → (r.session n).state = .exit →
      now < (r.session n).expiry ∧ ∃ s ∈ w.steps, s.Ends id := by
  intro w r
  have ht : w.sim.table = T := run_table _ moves
  have hv : w.Visited := run_visited (start_visited T ttl capacity visitors users engine payloads) _
  have hs : w.Settles := run_settles (fun _ hx => absurd hx List.not_mem_nil)
    (start_chained T ttl capacity visitors users engine payloads) moves
  have hr : r = (w.sim.registry.sweep now).1 := w.sim.sweep_registry now
  have hsession : r.session = w.sim.registry.session := by
    rw [hr, Registry.session_congr (Registry.sweep_created _ now)]
  have hkeeps {id : String} {n : Nat} (hn : w.sim.registry.sessions[id]? = some n) :
      r.sessions[id]? = some n ↔ now < (w.sim.registry.session n).expiry := by
    rw [hr]
    exact Registry.sweep_keeps_iff hn now
  refine ⟨fun id n hn => hkeeps hn, fun id n hn hx => ?_⟩
  have hold : w.sim.registry.sessions[id]? = some n := by
    rw [hr, Registry.sweep_sessions] at hn
    split at hn
    · cases hn
    · exact hn
  obtain ⟨hlt, hid⟩ := hv.chained.sane.sound.named hold
  rw [hsession] at hx ⊢
  obtain ⟨x, hmade, hexit, hxid⟩ := hv.exit_made (ht ▸ hin) (ht ▸ hT) hlt hx
  refine ⟨(hkeeps hold).mp hn, ?_⟩
  have hends := hs x hmade hexit
  rw [hxid, hid] at hends
  exact hends.resolve_right (by rw [hold]; exact nofun)

/-- A shop with one visitor, who leaves at once. -/
def passage : Weave := start .standard 10 1 ⟨#["user_1"]⟩ (.seeded 0) (.seeded 2) (.seeded 0)

/-- The exit event is made, and not yet sent when a sweep comes. -/
lemma passage_left :
    let w := passage.run [.begin 0, .go 0]
    w.sim.registry.sessions["sess_user_1_0_1"]? = some 0 ∧
      (w.sim.registry.session 0).state = .exit ∧ (w.sim.registry.session 0).expiry = 10 := by
  have hdraw : passage.sim.drawVisitor.2 = some "user_1" := by decide +kernel
  have hid : passage.sim.registry.newId "user_1" 0 = "sess_user_1_0_1" := by decide +kernel
  have hstep : ((Session.begin "sess_user_1_0_1" "user_1" 0 10).step .standard 0
      (.seeded 2)).1.2.map (·.action) = some .exit := by decide +kernel
  obtain ⟨sim, e, s', hb, ha, hm, hr⟩ :=
    Simulation.begin_new hdraw (by simp [passage, start]) (by rw [hid]; exact hstep)
  rw [hid] at hm
  intro w
  have hw : w.sim = sim := congrArg Weave.sim ((passage.run_begin 0).2 _ _ hb)
  have hself : sim.registry.session 0 = s' := by
    rw [hr]
    exact Registry.session_update_self (by simp [Registry.openSession_created_size]) _
  rw [hw, hself]
  refine ⟨?_, hm.exited Table.standard_exitsOnly (by rw [ha]; rfl), ?_⟩
  · rw [hr, Registry.update_sessions, Registry.openSession_sessions, if_pos hid]
    rfl
  · rw [hm.expiry]
    decide

/-- A sweep finds the visitor at the exit and leaves the session, whose time is not over. -/
theorem run_leftover :
    let w := passage.run [.begin 0, .go 0, .sweep 5]
    w.sim.registry.sessions["sess_user_1_0_1"]? = some 0 ∧
      (w.sim.registry.session 0).state = .exit := by
  intro w
  obtain ⟨hn, hx, he⟩ := passage_left
  have hr : w.sim.registry = ((passage.run [.begin 0, .go 0]).sim.registry.sweep 5).1 :=
    Simulation.sweep_registry _ 5
  rw [hr, Registry.session_congr (Registry.sweep_created _ 5)]
  refine ⟨(Registry.sweep_keeps_iff hn 5).mpr ?_, hx⟩
  rw [he]
  decide

/-- The session that is left belongs to the step whose event is still to be sent. -/
theorem run_leftovers_passage :
    let w := passage.run [.begin 0, .go 0]
    let r := (w.perform (.sweep 5)).sim.registry
    Table.standard.LeadsInside ∧ Table.standard.ExitsOnly ∧
      r.sessions["sess_user_1_0_1"]? = some 0 ∧
      ∃ s ∈ w.steps, s.Ends "sess_user_1_0_1" := by
  intro w r
  obtain ⟨hn, hx, he⟩ := passage_left
  obtain ⟨hkeeps, hends⟩ := run_leftovers Table.standard_leadsInside Table.standard_exitsOnly 10 1
    ⟨#["user_1"]⟩ (.seeded 0) (.seeded 2) (.seeded 0) [.begin 0, .go 0] 5
  have hlate : 5 < (w.sim.registry.session 0).expiry := by
    rw [he]
    decide
  have hleft : r.sessions["sess_user_1_0_1"]? = some 0 := (hkeeps _ 0 hn).mpr hlate
  have hexit : (r.session 0).state = .exit := by
    rw [show r = (w.sim.registry.sweep 5).1 from w.sim.sweep_registry 5,
      Registry.session_congr (Registry.sweep_created _ 5)]
    exact hx
  exact ⟨Table.standard_leadsInside, Table.standard_exitsOnly, hleft, (hends _ 0 hleft hexit).2⟩

end Weave

end ShopTraffic
