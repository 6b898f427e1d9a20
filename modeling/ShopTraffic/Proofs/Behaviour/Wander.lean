import ShopTraffic.Proofs.Behaviour.WaysOut

/-!
Wherever steps of the behaviour model take a session is among the states that the search finds. A
session that goes back returns to where it was before, but the search takes going back for a way to
the start. Both are found: the state before, because the search came through there, and the start,
which is where a session goes that has no state before, because the search goes there.
-/

namespace ShopTraffic

open ShopTraffic.Random Relation

/-! ### Places -/

namespace Table

/-- The states of a place can be reached from `origin`, except that none may come before. -/
structure Within (T : Table) (origin : State) (a : Place) : Prop where
  state : T.Reaches origin a.state
  previous : a.previous = .outside ∨ T.Reaches origin a.previous

variable {T : Table} {origin : State} {a b : Place}

/-- **One move keeps to what can be reached**: it leads to a successor, or to the state before. -/
lemma Leads.within (hab : T.Leads a b) (h : T.Within origin a) : T.Within origin b := by
  obtain ⟨hprevious, hahead | ⟨⟨t, hmem, hpossible, htarget⟩, hback⟩⟩ := hab.cases
  · exact ⟨h.state.tail hahead.next, .inr (hprevious ▸ h.state)⟩
  · -- who goes back from nowhere comes to the start, where the search goes
    have hstart : T.Next a.state .start := by
      simpa [htarget] using next_of_possible hmem hpossible
    refine ⟨?_, .inr (hprevious ▸ h.state)⟩
    rw [hback, State.backTo]
    split
    · exact h.state.tail hstart
    · next hinside => exact h.previous.resolve_left hinside

lemma within_of_path (hab : ReflTransGen T.Leads a b) (h : T.Within origin a) :
    T.Within origin b := by
  induction hab with
  | refl => exact h
  | tail _ hnext ih => exact hnext.within ih

lemma Leads.inside (hT : T.LeadsInside) (hab : T.Leads a b) : b.state ≠ .outside := by
  obtain ⟨t, hmem, -, rfl⟩ := hab
  exact Transition.next_inside (hT _ t hmem) a.previous

end Table

/-! ### Steps -/

namespace Session

/-- The session after steps at the given times; each may draw from other numbers. -/
def wander (T : Table) (s : Session) (steps : List (Time × Source)) : Session :=
  steps.foldl (fun s x => (s.step T x.1 x.2).1.1) s

variable {T : Table} {s : Session}

@[simp] lemma wander_nil (T : Table) (s : Session) : s.wander T [] = s := rfl

@[simp] lemma wander_cons (T : Table) (s : Session) (x : Time × Source)
    (steps : List (Time × Source)) :
    s.wander T (x :: steps) = ((s.step T x.1 x.2).1.1).wander T steps := rfl

lemma Took.leads (hs : s.state ≠ .outside) {s' : Session} {now : Time} {t : Transition} {e : Event}
    (h : s.Took T now t s' e) : T.Leads s.place s'.place := by
  have hmem := h.mem
  have hprevious := h.moved.previous
  rw [enter_of_inside hs] at hmem hprevious
  refine ⟨t, hmem, h.possible, ?_⟩
  rw [place, hprevious, ← h.told.2.2.1, h.next]
  rfl

/-- A step leads on to another place along a possible transition, or it changes nothing. -/
lemma step_leads (hs : s.state ≠ .outside) (now : Time) :
    Draw.Always (fun r => r.1 = s ∨ T.Leads s.place r.1.place) (s.step T now) := by
  refine (s.step_took T now).imp fun r hr => ?_
  rcases r with ⟨s', _ | e⟩
  · exact .inl (Eq.trans hr (enter_of_inside hs))
  · obtain ⟨t, ht⟩ := hr
    exact .inr (ht.leads hs)

/-- **Steps lead from place to place.** -/
lemma wander_leads (hT : T.LeadsInside) (hs : s.state ≠ .outside) (steps : List (Time × Source)) :
    ReflTransGen T.Leads s.place (s.wander T steps).place := by
  induction steps generalizing s with
  | nil => exact .refl
  | cons x steps ih =>
    rw [wander_cons]
    rcases step_leads (T := T) hs x.1 x.2 with hsame | hnext
    · rw [hsame]
      exact ih hs
    · exact .head hnext (ih (hnext.inside hT))

/-- **Visited states are found by the search.** Let no transition lead outside. However many steps
a session takes that comes from nowhere, and whatever they draw, it is in a state that can be
reached from the one where it began, and so it was before, unless it came from nowhere. -/
theorem wander_reachable (hT : T.LeadsInside) (hs : s.state ≠ .outside)
    (hprevious : s.previous = .outside) (steps : List (Time × Source)) :
    (s.wander T steps).state ∈ T.reachableFrom s.state ∧
      ((s.wander T steps).previous = .outside ∨
        (s.wander T steps).previous ∈ T.reachableFrom s.state) := by
  simp only [Table.mem_reachableFrom]
  have hbegin : T.Within s.state s.place := ⟨.refl, .inl hprevious⟩
  obtain ⟨hstate, hbefore⟩ := Table.within_of_path (wander_leads hT hs steps) hbegin
  exact ⟨hstate, hbefore⟩

/-- Someone looks at a product of the ticket shop, puts it into the cart and goes back to it. -/
theorem wander_reachable_back :
    let s : Session := { id := "sess", user := "user", state := .click }
    let steps : List (Time × Source) := [(1, .seeded 5), (2, .seeded 0)]
    Table.standard.LeadsInside ∧ s.state ≠ .outside ∧ s.previous = .outside ∧
      (s.wander .standard steps).place = ⟨.click, .addToCart⟩ ∧
      (s.wander .standard steps).state ∈ Table.standard.reachableFrom .click ∧
      ((s.wander .standard steps).previous = .outside ∨
        (s.wander .standard steps).previous ∈ Table.standard.reachableFrom .click) := by
  intro s steps
  have hs : s.state ≠ .outside := State.noConfusion
  have hplace : (s.wander .standard steps).place = ⟨.click, .addToCart⟩ := by decide +kernel
  exact ⟨Table.standard_leadsInside, hs, rfl, hplace,
    wander_reachable Table.standard_leadsInside hs rfl steps⟩

end Session

end ShopTraffic
