import ShopTraffic.Proofs.Simulation.Weave

/-!
Why sessions are removed. However the steps of a simulation overlap, a session leaves the registry
only if its visitor has left the shop or if it has expired at the time of the look-up or sweep that
removes it. A deletion can come long after it was decided on; it removes no other session than the
one that it was decided on for.
-/

namespace ShopTraffic

open ShopTraffic.Random

/-! ### What an operation of the registry may remove -/

namespace Registry

/-- What is not registered any more has the property `P`. -/
def LosesOnly (r r' : Registry) (P : Session → Prop) : Prop :=
  ∀ (id : String) (n : Nat), r.sessions[id]? = some n →
    r'.sessions[id]? = some n ∨ r'.sessions[id]? = none ∧ P (r.session n)

variable {r r' : Registry} {P : Session → Prop}

lemma losesOnly_of_eq (h : ∀ id : String, r'.sessions[id]? = r.sessions[id]?) :
    r.LosesOnly r' P :=
  fun id _ hn => .inl ((h id).trans hn)

lemma LosesOnly.imp {Q : Session → Prop} (h : r.LosesOnly r' P) (hq : ∀ s, P s → Q s) :
    r.LosesOnly r' Q :=
  fun id n hn => (h id n hn).imp_right fun hp => ⟨hp.1, hq _ hp.2⟩

/-- A new id is not registered, also after sessions have been taken out. -/
lemma Sound.newId_ne_of_registered (h : r.Sound) {r₀ : Registry} (hc : r₀.created = r.created)
    {id : String} {n : Nat} (hn : r.sessions[id]? = some n) (user : String) (now : Time) :
    r₀.newId user now ≠ id := by
  intro e
  obtain ⟨hlt, hid⟩ := h.named hn
  refine h.newId_ne user now hlt (.trans ?_ hid.symm)
  rw [← e, newId_eq, newId_eq, hc]

/-- A look-up removes the visitor's session to put a new one in its place, if the old one is not
live. -/
lemma Sound.obtain_losesOnly (h : r.Sound) (user : String) (now : Time) :
    r.LosesOnly (r.obtain user now).1 fun s => s.state = .exit ∨ s.isExpired now = true := by
  intro id n hn
  rcases h.obtain_cases user now with
    ⟨id₀, n₀, -, -, -, e⟩ | ⟨-, e⟩ | ⟨id₀, n₀, -, hn₀, hl, -, e⟩ <;> rw [e]
  · exact .inl hn
  · left
    rw [openSession_sessions, if_neg (h.newId_ne_of_registered rfl hn user now), hn]
  · rw [openSession_sessions, sessions_without,
      if_neg (h.newId_ne_of_registered (created_without r id₀ n₀) hn user now)]
    by_cases hid : id₀ = id
    · subst hid
      obtain rfl : n₀ = n := Option.some.inj (hn₀.symm.trans hn)
      refine .inr ⟨if_pos rfl, ?_⟩
      rw [Session.isLive, Bool.and_eq_false_iff] at hl
      exact hl.imp (fun hx => by simpa [State.isTerminal] using hx) fun hx => by simpa using hx
    · rw [if_neg hid]
      exact .inl hn

lemma Sound.obtain_replaces (h : r.Sound) {id : String} {n : Nat} (hn : r.sessions[id]? = some n)
    {now : Time} (hl : (r.session n).isLive now = false) :
    (r.obtain (r.session n).user now).1.sessions[id]? = none := by
  have hu := h.linked hn
  rcases h.obtain_cases (r.session n).user now with
    ⟨id₀, n₀, hu₀, hn₀, hl₀, -⟩ | ⟨hu₀, -⟩ | ⟨id₀, n₀, hu₀, -, -, -, e⟩
  · obtain rfl : id₀ = id := Option.some.inj (hu₀.symm.trans hu)
    obtain rfl : n₀ = n := Option.some.inj (hn₀.symm.trans hn)
    exact absurd (hl₀.symm.trans hl) nofun
  · exact absurd (hu₀.symm.trans hu) nofun
  · obtain rfl : id₀ = id := Option.some.inj (hu₀.symm.trans hu)
    rw [e, openSession_sessions, sessions_without, if_pos rfl,
      if_neg (h.newId_ne_of_registered (created_without r id₀ n₀) hn _ now)]

lemma sweep_losesOnly (r : Registry) (now : Time) :
    r.LosesOnly (r.sweep now).1 fun s => s.isExpired now = true := by
  intro id n hn
  rw [sweep_sessions]
  split
  · next hx =>
    obtain ⟨m, hm, hx⟩ := mem_expired.mp hx
    obtain rfl : n = m := Option.some.inj (hn.symm.trans hm)
    exact .inr ⟨rfl, hx⟩
  · exact .inl hn

lemma Sound.delete_losesOnly (h : r.Sound) (user session : String) :
    r.LosesOnly (r.delete user session).1 fun s => s.id = session := by
  intro id n hn
  rw [delete_sessions]
  split
  · next e => exact .inr ⟨rfl, (h.named hn).2.trans e.symm⟩
  · exact .inl hn

/-- A visitor's entry is lost only together with the session that it leads to. -/
lemma Sound.entry_kept (h : r.Sound) (h' : r'.Sound) (hg : r.Grows r') (hl : r.LosesOnly r' P)
    {user id : String} (hu : r.users[user]? = some id) :
    r'.users[user]? = some id ∨ r'.sessions[id]? = none := by
  obtain ⟨n, hn, hs⟩ := h.led hu
  refine (hl id n hn).imp (fun hn' => ?_) And.left
  have := h'.linked hn'
  rwa [hg.user n (h.named hn).1, hs] at this

/-- A deletion touches no other session and no entry that leads to another. -/
lemma delete_others (r : Registry) (user session : String) :
    (∀ id ≠ session, (r.delete user session).1.sessions[id]? = r.sessions[id]?) ∧
    ∀ u : String, r.users[u]? ≠ some session →
      (r.delete user session).1.users[u]? = r.users[u]? := by
  refine ⟨fun id hid => ?_, fun u hu => ?_⟩
  · rw [delete_sessions, if_neg (Ne.symm hid)]
  · simp only [delete, unlink]
    split
    · next hx =>
      rw [Std.HashMap.getElem?_erase, if_neg]
      intro e
      rw [eq_of_beq e] at hx
      exact hu hx
    · rfl

def HasLeft (r : Registry) (session : String) : Prop :=
  ∃ n < r.created.size, (r.session n).id = session ∧ (r.session n).state = .exit

/-- Whoever has left stays away. -/
def Lasts (r r' : Registry) : Prop :=
  ∀ n < r.created.size, (r.session n).state = .exit → (r'.session n).state = .exit

lemma eq_exit_of_entered {s : State} (h : s.entered = .exit) : s = .exit := by
  cases s <;> first | rfl | cases h

lemma Stays.lasts (h : r.Stays r') : r.Lasts r' := by
  intro n hn hx
  refine eq_exit_of_entered ((h n hn).trans ?_)
  rw [hx]
  rfl

lemma HasLeft.mono {session : String} (h : r.HasLeft session) (hg : r.Grows r')
    (hl : r.Lasts r') : r'.HasLeft session := by
  obtain ⟨n, hn, hid, hx⟩ := h
  exact ⟨n, Nat.lt_of_lt_of_le hn hg.size, (hg.id n hn).trans hid, hl n hn hx⟩

/-- A session whose visitor has left may be deleted. -/
lemma Sound.state_of_hasLeft (h : r.Sound) {session : String} (hl : r.HasLeft session) {n : Nat}
    (hn : n < r.created.size) (hid : (r.session n).id = session) : (r.session n).state = .exit := by
  obtain ⟨m, hm, hid', hx⟩ := hl
  rwa [h.number_eq hn hm (hid.trans hid'.symm)]

end Registry

/-! ### The deletions that steps still owe -/

/-- The session that a step is going to remove. -/
def Stage.leaver? : Stage → Option String
  | leaving _ session => some session
  | sending _ p _ | sent p _ => if p.event.action.endsSession then some p.event.session else none
  | found _ _ _ | ended => none

namespace Weave

/-- The visitors of all sessions that are still to be removed have left. -/
structure Parting (T : Table) (w : Weave) : Prop where
  sane : w.Sane
  table : w.sim.table = T
  left : ∀ s ∈ w.steps, ∀ session, s.leaver? = some session → w.sim.registry.HasLeft session

variable {T : Table} {w w' : Weave} {m : Move} {place n : Nat} {now : Time} {user : String}

/-- Nobody comes back from the exit. -/
lemma Sane.lasts (h : w.Sane) (ht : w.sim.table.transitions .exit = []) (m : Move) :
    w.sim.registry.Lasts (w.perform m).sim.registry := by
  have hg := h.perform_goes m
  have he := w.perform_effect m
  generalize w.perform m = w' at he hg ⊢
  cases he with
  | move place user n now sim e hp ha =>
    have hf := h.known _ (List.mem_of_getElem? hp)
    obtain ⟨-, -, s', hm, hr⟩ := Simulation.advance_some ha
    intro k hk hx
    have hne : n ≠ k := by
      rintro rfl
      obtain ⟨t, hmem, -⟩ := hm.taken
      have hexit : (w.sim.registry.session n).enter.state = .exit := by
        simp [Session.enter, hx]
      rw [hexit, ht] at hmem
      cases hmem
    show (sim.registry.session k).state = .exit
    rw [hr, Registry.session_update_ne hne, hx]
  | _ => exact (hg.stays rfl).lasts

/-- Whoever has made an exit event has left. -/
lemma hasLeft_of_advance {sim sim' : Simulation} {e : Event} (ht : sim.table.LeavesForGood)
    (hn : n < sim.registry.created.size) (ha : sim.advance n now = (sim', some e))
    (he : e.action.endsSession = true) : sim'.registry.HasLeft e.session := by
  obtain ⟨s₁, e₁, source, s', hstep, hact, hbare, -, hr⟩ := Simulation.advance_stepped ha
  obtain ⟨-, -, s'', hm, hr'⟩ := Simulation.advance_some ha
  have hexit := ht.leaves (sim.registry.session n) now sim.engineSource
  rw [hstep] at hexit
  refine ⟨n, by rw [hr, Registry.update_size]; exact hn, ?_, ?_⟩
  · rw [hr', Registry.session_update_self hn]
    exact hm.told.2.1.symm
  · rw [hr, Registry.session_update_self hn]
    exact (congrArg Session.state hbare).trans (hexit e₁ rfl (by rw [← hact]; exact he))

lemma Parting.perform (h : w.Parting T) (ht : T.LeavesForGood) (m : Move) :
    (w.perform m).Parting T := by
  have hg := h.sane.perform_goes m
  have hl := h.sane.lasts (h.table ▸ ht.ends) m
  have he := w.perform_effect m
  generalize w.perform m = w' at he hg hl ⊢
  have hold : ∀ s ∈ w.steps, ∀ session, s.leaver? = some session →
      w'.sim.registry.HasLeft session :=
    fun s hs session hx => (h.left s hs session hx).mono hg.grows hl
  refine ⟨h.sane.goes hg, he.table.trans h.table, fun s hs session hx => ?_⟩
  cases he with
  | aside | lookUp | sweep | receive | close => exact hold s hs session hx
  | find =>
    rcases List.mem_append.mp hs with hs | hs
    · exact hold s hs session hx
    · rw [List.mem_singleton.mp hs] at hx
      cases hx
  | stuck place user n now sim s₁ hp ha hs₁ =>
    rcases mem_setStage rfl hs with hs | rfl
    · exact hold s hs session hx
    rcases hs₁ with rfl | ⟨rfl, hexit⟩ <;> cases hx
    have hf := h.sane.known _ (List.mem_of_getElem? hp)
    exact ⟨n, Nat.lt_of_lt_of_le hf.1 hg.grows.size, rfl, hexit⟩
  | move place user n now sim e hp ha =>
    rcases mem_setStage rfl hs with hs | rfl
    · exact hold s hs session hx
    obtain ⟨hends, hsome⟩ := Option.ite_none_right_eq_some.mp hx
    obtain rfl : e.session = session := Option.some.inj hsome
    have hf := h.sane.known _ (List.mem_of_getElem? hp)
    exact (hasLeft_of_advance (h.table ▸ ht) hf.1 ha hends : sim.registry.HasLeft e.session)
  | leave | finish =>
    rcases mem_setStage rfl hs with hs | rfl
    · exact hold s hs session hx
    · cases hx
  | wait place n p waits output hp =>
    rcases mem_setStage rfl hs with hs | rfl
    · exact hold s hs session hx
    · exact hold _ (List.mem_of_getElem? hp) session hx
  | offer place n p waits taken output hp =>
    rcases mem_setStage rfl hs with hs | rfl
    · exact hold s hs session hx
    · exact hold _ (List.mem_of_getElem? hp) session hx

lemma Parting.run (h : w.Parting T) (ht : T.LeavesForGood) (moves : List Move) :
    (w.run moves).Parting T := by
  induction moves generalizing w with
  | nil => exact h
  | cons m moves ih => exact ih (h.perform ht m)

/-! ### Removals -/

def Move.now? : Move → Option Time
  | begin now | sweep now | lookUp _ now => some now
  | go _ | receive | close | grow _ | reseed _ _ _ => none

/-- The visitor has left, or the session has expired at the time of the move. -/
def Justified (m : Move) (s : Session) : Prop :=
  s.state = .exit ∨ ∃ now, m.now? = some now ∧ s.isExpired now = true

lemma Parting.delete_justified (h : w.Parting T) {s : Stage} (hs : s ∈ w.steps)
    {session : String} (hx : s.leaver? = some session) (m : Move) :
    w.sim.registry.LosesOnly (w.sim.registry.delete user session).1 (Justified m) := by
  intro id n hn
  refine (h.sane.sound.delete_losesOnly user session id n hn).imp_right fun hd => ⟨hd.1, .inl ?_⟩
  exact h.sane.sound.state_of_hasLeft (h.left s hs session hx) (h.sane.sound.named hn).1 hd.2

lemma Parting.losesOnly (h : w.Parting T) (m : Move) :
    w.sim.registry.LosesOnly (w.perform m).sim.registry (Justified m) := by
  have he := w.perform_effect m
  generalize w.perform m = w' at he ⊢
  cases he with
  | aside m sim hb => exact Registry.losesOnly_of_eq fun id => by rw [hb.registry]
  | find user now sim _ hr =>
    rw [hr]
    exact (h.sane.sound.obtain_losesOnly user now).imp fun s hs =>
      hs.imp_right fun hx => ⟨now, rfl, hx⟩
  | lookUp user now sim _ hr =>
    rw [hr]
    exact (h.sane.sound.obtain_losesOnly user now).imp fun s hs =>
      hs.imp_right fun hx => ⟨now, rfl, hx⟩
  | sweep now sim _ hr =>
    rw [hr]
    exact (w.sim.registry.sweep_losesOnly now).imp fun s hs => .inr ⟨now, rfl, hs⟩
  | receive | close | wait | offer => exact Registry.losesOnly_of_eq fun id => rfl
  | stuck place user n now sim s hp ha =>
    have hr := (Simulation.advance_none ha).2.2
    refine Registry.losesOnly_of_eq fun id => ?_
    show sim.registry.sessions[id]? = _
    rw [hr, Registry.update_sessions]
  | move place user n now sim e hp ha =>
    obtain ⟨-, -, s', -, hr⟩ := Simulation.advance_some ha
    refine Registry.losesOnly_of_eq fun id => ?_
    show sim.registry.sessions[id]? = _
    rw [hr, Registry.update_sessions]
  | leave place user session hp => exact h.delete_justified (List.mem_of_getElem? hp) rfl _
  | finish place p taken hp =>
    show w.sim.registry.LosesOnly (w.sim.finish p taken).1.registry _
    rw [Simulation.finish_registry]
    split
    · next hx => exact h.delete_justified (List.mem_of_getElem? hp) (if_pos hx) _
    · exact Registry.losesOnly_of_eq fun id => rfl

/-- A step that goes on to delete a session leaves all others alone. -/
lemma go_others {s : Stage} (hp : w.steps[place]? = some s) {session : String}
    (hx : s.leaver? = some session) :
    (∀ id ≠ session,
      (w.perform (.go place)).sim.registry.sessions[id]? = w.sim.registry.sessions[id]?) ∧
    ∀ user : String, w.sim.registry.users[user]? ≠ some session →
      (w.perform (.go place)).sim.registry.users[user]? = w.sim.registry.users[user]? := by
  rw [perform_go hp]
  cases s with
  | found | ended => cases hx
  | leaving user id =>
    obtain rfl : id = session := Option.some.inj hx
    exact w.sim.registry.delete_others user id
  | sending n p waits =>
    rcases ho : w.sim.output.offer p.event waits with ⟨output, _ | taken⟩
    · rw [go_blocked ho]
      exact ⟨fun _ _ => rfl, fun _ _ => rfl⟩
    · rw [go_offered ho]
      exact ⟨fun _ _ => rfl, fun _ _ => rfl⟩
  | sent p taken =>
    obtain ⟨hends, hsome⟩ := Option.ite_none_right_eq_some.mp hx
    obtain rfl : p.event.session = session := Option.some.inj hsome
    have hr : (w.go place (.sent p taken)).sim.registry =
        (w.sim.registry.delete p.user p.event.session).1 :=
      (w.sim.finish_registry p taken).trans (if_pos hends)
    rw [hr]
    exact w.sim.registry.delete_others p.user p.event.session

lemma start_parting (T : Table) (ttl : Time) (capacity : Nat) (visitors : Visitors)
    (users engine payloads : Source) :
    (start T ttl capacity visitors users engine payloads).Parting T :=
  ⟨start_sane T ttl capacity visitors users engine payloads, rfl,
    fun _ hs => absurd hs List.not_mem_nil⟩

/-- **Every removal is justified.** Where visitors leave for good, each move of any run takes a
session out of the registry only if its visitor has left or if it has expired at the time that the
move is told; a visitor's entry is lost only together with the session that it leads to. In
particular a step that deletes a session late removes no other session, and no entry that leads to
another one by then. -/
theorem run_removals {T : Table} (ht : T.LeavesForGood) (ttl : Time) (capacity : Nat)
    (visitors : Visitors) (users engine payloads : Source) (moves : List Move) (m : Move) :
    let w := (start T ttl capacity visitors users engine payloads).run moves
    let r := w.sim.registry
    let r' := (w.perform m).sim.registry
    (∀ (id : String) (n : Nat), r.sessions[id]? = some n →
      r'.sessions[id]? = some n ∨ r'.sessions[id]? = none ∧
        ((r.session n).state = .exit ∨ ∃ now, m.now? = some now ∧ (r.session n).expiry ≤ now)) ∧
    (∀ user id : String, r.users[user]? = some id →
      r'.users[user]? = some id ∨ r'.sessions[id]? = none) ∧
    (∀ place s session, m = .go place → w.steps[place]? = some s → s.leaver? = some session →
      (∀ id ≠ session, r'.sessions[id]? = r.sessions[id]?) ∧
      ∀ user : String, r.users[user]? ≠ some session → r'.users[user]? = r.users[user]?) := by
  intro w r r'
  have h : w.Parting T :=
    (start_parting T ttl capacity visitors users engine payloads).run ht moves
  have hl : r.LosesOnly r' (Justified m) := h.losesOnly m
  have hg := h.sane.perform_goes m
  refine ⟨fun id n hn => ?_, fun user id hu => ?_, fun place s session hm hp hx => ?_⟩
  · refine (hl id n hn).imp_right fun hj => ⟨hj.1, hj.2.imp_right ?_⟩
    rintro ⟨now, hnow, hx⟩
    exact ⟨now, hnow, of_decide_eq_true hx⟩
  · exact h.sane.sound.entry_kept hg.sound hg.grows hl hu
  · subst hm
    exact go_others hp hx

/-- Ann's first visit has expired when she is looked up again. -/
theorem run_removals_expired :
    let w := (start .standard 10 1 {} (.seeded 0) (.seeded 0) (.seeded 0)).run [.lookUp "ann" 0]
    let w' := w.perform (.lookUp "ann" 10)
    Table.standard.LeavesForGood ∧ w.sim.registry.sessions["sess_ann_0_1"]? = some 0 ∧
      w'.sim.registry.sessions["sess_ann_0_1"]? = none ∧
      ∃ now, (Move.lookUp "ann" 10).now? = some now ∧ (w.sim.registry.session 0).expiry ≤ now := by
  intro w w'
  have ht := Table.standard_leavesForGood
  have hid : ({ ttl := 10 } : Registry).newId "ann" 0 = "sess_ann_0_1" := by decide +kernel
  have hr : w.sim.registry = (({ ttl := 10 } : Registry).openSession "ann" 0).1 := by
    show (Simulation.obtain _ "ann" 0).1.registry = _
    rw [Simulation.obtain_new _ (by simp [start])]
    rfl
  have hold : w.sim.registry.sessions["sess_ann_0_1"]? = some 0 := by
    rw [hr, Registry.openSession_sessions, if_pos hid]
    rfl
  have hsession : w.sim.registry.session 0 = Session.begin "sess_ann_0_1" "ann" 0 10 := by
    rw [hr, ← hid]
    exact Registry.session_openSession_new "ann" 0
  have hgone : w'.sim.registry.sessions["sess_ann_0_1"]? = none := by
    have hs := (start_sane .standard 10 1 {} (.seeded 0) (.seeded 0) (.seeded 0)).run
      [.lookUp "ann" 0]
    have hlive : (w.sim.registry.session 0).isLive 10 = false := by
      rw [hsession]
      decide
    have hreplaced := hs.sound.obtain_replaces hold hlive
    rw [hsession] at hreplaced
    exact (congrArg (·.sessions["sess_ann_0_1"]?) (w.sim.obtain_registry "ann" 10)).trans hreplaced
  refine ⟨ht, hold, hgone, ?_⟩
  obtain ⟨h, -⟩ := run_removals ht 10 1 {} (.seeded 0) (.seeded 0) (.seeded 0) [.lookUp "ann" 0]
    (.lookUp "ann" 10)
  rcases h "sess_ann_0_1" 0 hold with hkept | ⟨-, hx | hx⟩
  · exact absurd (hgone.symm.trans hkept) nofun
  · exact absurd ((congrArg Session.state hsession).symm.trans hx) (by decide)
  · exact hx

end Weave

end ShopTraffic
