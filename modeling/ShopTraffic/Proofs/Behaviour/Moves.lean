import ShopTraffic.Behaviour.Engine
import ShopTraffic.Proofs.Payload.Frame
import ShopTraffic.Proofs.Random.Weighted

/-!
What one step of a visit can come to. Either nothing moves, or the visit follows one of the
transitions of the place where it is, and the event tells of that move.
-/

namespace ShopTraffic

open ShopTraffic.Random

variable {table : Table}

/-- **A transition that is drawn can be drawn:** it leaves the state, and its weight is above
zero. -/
lemma Table.choose_possible (table : Table) (s : State) :
    Draw.Always (fun t => ∀ u, t = some u → u ∈ table.transitions s ∧ u.possible = true)
      (table.choose s) := by
  simp only [Table.choose]
  split
  · exact Draw.always_pure fun u hu => by cases hu
  · next w hw =>
    refine (Weighted.draw_positive hw).bind fun i hi => Draw.always_pure fun u hu => ?_
    obtain ⟨weight, hi, hpos⟩ := hi
    rw [List.getElem?_map, hu] at hi
    obtain rfl := Option.some.inj hi
    exact ⟨List.mem_of_getElem? hu, decide_eq_true hpos⟩

namespace Session

/-- A session that is anywhere has entered already. -/
lemma enter_of_inside {s : Session} (h : s.state ≠ .outside) : s.enter = s := by
  simp [enter, h]

/-- The session `s'` and the event `e` are those of a transition out of `s`. -/
structure Moved (table : Table) (s : Session) (now : Time) (s' : Session) (e : Event) : Prop where
  taken : ∃ t ∈ table.transitions s.enter.state, t.action = e.action ∧ t.next s.previous = s'.state
  previous : s'.previous = s.enter.state
  id : s'.id = s.id
  user : s'.user = s.user
  lastEvent : s'.lastEvent = now
  expiry : s'.expiry = s.expiry
  told : e.user = s'.user ∧ e.session = s'.id ∧ e.state = s'.state ∧ e.previous = s'.previous ∧
    e.time = now

/-- The session `s'` is `s` after the transition `t`, and the event `e` tells of it. -/
structure Took (table : Table) (s : Session) (now : Time) (t : Transition) (s' : Session)
    (e : Event) : Prop where
  mem : t ∈ table.transitions s.enter.state
  possible : t.possible = true
  session : s' = s.enter.move t now ∧ t.action ≠ .searchSubmitted ∨
    t.action = .searchSubmitted ∧ ∃ k ∈ Catalog.keywords, s' = (s.enter.move t now).searchFor k
  action : e.action = t.action
  told : e.user = s'.user ∧ e.session = s'.id ∧ e.state = s'.state ∧ e.previous = s'.previous ∧
    e.time = now
  extra : e.extra = []

def Stepped (table : Table) (s : Session) (now : Time) : Session × Option Event → Prop
  | (s', none) => s' = s.enter
  | (s', some e) => s.Moved table now s' e ∧ e.extra = []

lemma follow_cases (s : Session) (t : Transition) (now : Time) :
    Draw.Always (fun s' => s' = s.move t now ∧ t.action ≠ .searchSubmitted ∨
        t.action = .searchSubmitted ∧ ∃ k ∈ Catalog.keywords, s' = (s.move t now).searchFor k)
      (s.follow t now) := by
  refine Draw.Always.ite (fun h => ?_) fun h => ?_
  · exact Catalog.drawKeyword_mem.bind fun k hk => Draw.always_pure (.inr ⟨h, k, hk, rfl⟩)
  · exact Draw.always_pure (.inl ⟨rfl, h⟩)

lemma draw_told (action : Action) (now : Time) (s : Session) :
    Draw.Always (fun e => e.action = action ∧ (e.user = s.user ∧ e.session = s.id ∧
        e.state = s.state ∧ e.previous = s.previous ∧ e.time = now) ∧ e.extra = [])
      (Event.draw action now s.user s.id s.state s.previous) :=
  Draw.always_bind _ fun _ => Draw.always_pure ⟨rfl, ⟨rfl, rfl, rfl, rfl, rfl⟩, rfl⟩

/-- **A step takes a possible transition**, whatever is drawn, and its event tells of the move. -/
lemma step_took (table : Table) (s : Session) (now : Time) :
    Draw.Always (fun r => match r.2 with
      | none => r.1 = s.enter
      | some e => ∃ t, s.Took table now t r.1 e) (s.step table now) := by
  refine (table.choose_possible s.enter.state).bind fun t ht => ?_
  cases t with
  | none => exact Draw.always_pure rfl
  | some t =>
    refine (s.enter.follow_cases t now).bind fun s' hs => ?_
    refine (draw_told t.action now s').bind fun e he => Draw.always_pure ?_
    obtain ⟨ha, htold, hx⟩ := he
    obtain ⟨hmem, hpossible⟩ := ht t rfl
    exact ⟨t, hmem, hpossible, hs, ha, htold, hx⟩

lemma Took.next {s s' : Session} {now : Time} {t : Transition} {e : Event}
    (h : s.Took table now t s' e) : e.state = t.next s.previous := by
  rw [h.told.2.2.1]
  rcases h.session with ⟨rfl, -⟩ | ⟨-, k, -, rfl⟩ <;> rfl

lemma Took.moved {s s' : Session} {now : Time} {t : Transition} {e : Event}
    (h : s.Took table now t s' e) : s.Moved table now s' e := by
  rcases h.session with ⟨rfl, -⟩ | ⟨-, k, -, rfl⟩ <;>
    exact ⟨⟨t, h.mem, h.action.symm, rfl⟩, rfl, rfl, rfl, rfl, rfl, h.told⟩

/-- **A step moves along the table**, whatever is drawn, and its event tells of the move. -/
lemma step_moved (table : Table) (s : Session) (now : Time) :
    Draw.Always (s.Stepped table now) (s.step table now) := by
  intro src
  have h := s.step_took table now src
  rcases hr : s.step table now src with ⟨⟨s', _ | e⟩, src'⟩ <;> rw [hr] at h
  · exact h
  · obtain ⟨t, ht⟩ := h
    exact ⟨ht.moved, ht.extra⟩

/-- Which action a step comes to depends on the place of the visitor only. -/
lemma step_action (table : Table) (s : Session) (now : Time) (src : Source) :
    (s.step table now src).1.2.map (·.action) =
      (table.choose s.enter.state src).1.map (·.action) := by
  refine Draw.bind_told (g := fun r : Session × Option Event => r.2.map (·.action))
    (h := fun t : Option Transition => t.map (·.action)) _ (fun t => ?_) src
  cases t with
  | none => exact Draw.always_pure rfl
  | some t =>
    refine Draw.always_bind _ fun s' => ?_
    exact (draw_told t.action now s').bind fun e he => Draw.always_pure (congrArg some he.1)

/-- Nothing that is remembered for payloads only, and no attribute, is part of a move. -/
lemma Moved.described {s s₁ s' : Session} {now : Time} {e : Event} (h : s.Moved table now s₁ e)
    (hs : s'.bare = s₁.bare) (more : Fields) : s.Moved table now s' (e.withExtra more) where
  taken := by
    obtain ⟨t, ht, ha, hn⟩ := h.taken
    exact ⟨t, ht, ha, hn.trans (congrArg Session.state hs).symm⟩
  previous := (congrArg Session.previous hs).trans h.previous
  id := (congrArg Session.id hs).trans h.id
  user := (congrArg Session.user hs).trans h.user
  lastEvent := (congrArg Session.lastEvent hs).trans h.lastEvent
  expiry := (congrArg Session.expiry hs).trans h.expiry
  told := by
    obtain ⟨hu, hi, hst, hp, ht⟩ := h.told
    exact ⟨hu.trans (congrArg Session.user hs).symm, hi.trans (congrArg Session.id hs).symm,
      hst.trans (congrArg Session.state hs).symm, hp.trans (congrArg Session.previous hs).symm, ht⟩

end Session

/-! ### The exit -/

/-- Leaving leads to the exit and nothing else does, and nothing leads on from there. -/
structure Table.ExitsOnly (t : Table) : Prop where
  leaves : ∀ s, ∀ u ∈ t.transitions s, u.action = .exit ↔ u.target = some .exit
  ends : t.transitions .exit = []

lemma Table.standard_exitsOnly : Table.standard.ExitsOnly where
  leaves s := by cases s <;> decide
  ends := rfl

/-- Going back never leads outside. -/
lemma Transition.next_inside {t : Transition} (ht : t.target ≠ some .outside) (previous : State) :
    t.next previous ≠ .outside := by
  rw [next]
  cases htarget : t.target with
  | none =>
    rw [Option.getD_none, State.backTo]
    split
    · exact State.noConfusion
    · assumption
  | some s =>
    rintro rfl
    exact ht htarget

/-- No transition leads outside. -/
def Table.LeadsInside (t : Table) : Prop := ∀ s, ∀ u ∈ t.transitions s, u.target ≠ some .outside

lemma Table.standard_leadsInside : Table.standard.LeadsInside := by
  intro s
  cases s <;> decide

/-- Whoever makes an exit event is at the exit then, and nothing leads on from there. -/
structure Table.LeavesForGood (t : Table) : Prop where
  leaves : ∀ s now, Draw.Always
    (fun r => ∀ e, r.2 = some e → e.action.endsSession = true → r.1.state = .exit)
    (Session.step t s now)
  ends : t.transitions .exit = []

namespace Session

variable {s s' : Session} {now : Time} {e : Event}

/-- Where an action can lead to one place only, the event tells of that place. -/
lemma Moved.state_eq (h : s.Moved table now s' e) {x : State}
    (hx : ∀ u ∈ table.transitions s.enter.state, u.action = e.action → u.target = some x) :
    e.state = x := by
  obtain ⟨t, hmem, ha, hn⟩ := h.taken
  rw [h.told.2.2.1, ← hn, Transition.next, hx t hmem ha]
  rfl

lemma Moved.inside (h : s.Moved table now s' e) (ht : table.LeadsInside) : e.state ≠ .outside := by
  obtain ⟨t, hmem, -, hn⟩ := h.taken
  rw [h.told.2.2.1, ← hn]
  exact Transition.next_inside (ht _ t hmem) s.previous

lemma Moved.exited (h : s.Moved table now s' e) (ht : table.ExitsOnly)
    (he : e.action.endsSession = true) : s'.state = .exit := by
  obtain ⟨t, hmem, ha, hn⟩ := h.taken
  have hx : t.action = .exit := ha.trans (of_decide_eq_true he)
  rw [← hn, Transition.next, (ht.leaves _ t hmem).mp hx]
  rfl

end Session

/-- It is enough that all rows send those who leave to the exit. -/
lemma Table.leavesForGood (hl : ∀ s, ∀ u ∈ table.transitions s, u.action = .exit →
    u.target = some .exit) (hend : table.transitions .exit = []) : table.LeavesForGood where
  leaves s now src e he hx := by
    have hm := s.step_moved table now src
    rcases hr : s.step table now src with ⟨⟨s', _ | e'⟩, src'⟩ <;> rw [hr] at hm he
    · cases he
    · obtain rfl := Option.some.inj he
      have hexit : e'.action = .exit := of_decide_eq_true hx
      have hstate := hm.1.state_eq fun u hu ha => hl _ u hu (ha.trans hexit)
      exact hm.1.told.2.2.1.symm.trans hstate
  ends := hend

lemma Table.standard_leavesForGood : Table.standard.LeavesForGood :=
  Table.leavesForGood (fun s u hu ha => (Table.standard_exitsOnly.leaves s u hu).mp ha)
    Table.standard_exitsOnly.ends

end ShopTraffic
