import ShopTraffic.Proofs.Behaviour.Places

/-!
Going back. What a payload says of where the visitor goes back to depends on the page that is left,
but where the visitor comes to is the place before. From an event page that is always the home page.
The results of a search are also come back to, from a product or from a later page, and whoever goes
back once more then comes to that page again, although the payload says home.
-/

namespace ShopTraffic

open ShopTraffic.Random Relation

/-- The event says that the visitor goes back to the home page, as from an event page. -/
def Event.NamesHome (e : Event) : Prop := e.extra.get? "to_page" = some (.text "home")

/-- The event gives the way back to the home page as its reason, as from the results of a search. -/
def Event.LeavesForHome (e : Event) : Prop :=
  e.extra.get? "exit_reason" = some (.text "back_to_home")

/-! ### What is said -/

/-- Which page is left decides what is said of the way back. -/
lemma Payload.Makes.saysHome {s : Session} {p : Part} (h : Makes s .back p) :
    (Fields.last? p.members "to_page" = some (.text "home") ↔ s.previous = .eventBrowsing) ∧
    (Fields.last? p.members "exit_reason" = some (.text "back_to_home") ↔
      s.previous = .search) := by
  cases h with
  | homeLeft _ _ h =>
    have hne : s.previous ≠ .eventBrowsing ∧ s.previous ≠ .search := by
      constructor <;> exact fun hx => absurd (hx ▸ h) (by decide)
    simp [Fields.last?, Fields.lookup_cons, hne]
  | cartBack _ h =>
    rw [h, cart]
    split <;> simp [Fields.last?, Fields.lookup_cons, pickedMembers, quantityMember]
  | eventPageBack _ h | resultsBack _ h | laterPageBack _ _ h | productBack _ h
  | paymentBack _ _ h =>
    rw [h]
    simp [Fields.last?, Fields.lookup_cons, pickedMembers, payment, query, quantityMember]

lemma Visit.Told.saysHome {e : Event} (h : Told e) (hback : e.action = .back) :
    (e.NamesHome ↔ e.previous = .eventBrowsing) ∧ (e.LeavesForHome ↔ e.previous = .search) := by
  obtain ⟨s, p, hp, -, hprevious, hget⟩ := h
  rw [hback] at hp
  rw [Event.NamesHome, Event.LeavesForHome, hget _ (by decide) rfl, hget _ (by decide) rfl,
    ← hprevious]
  exact hp.saysHome

/-! ### Where it leads -/

namespace Table

/-- Going back leads to the place before, and from an event page that is the home page. -/
lemma goes_back : ∀ a ∈ places, ∀ t ∈ standard.transitions a.state, t.action = .back →
    t.next a.previous = a.previous ∧ (a.state = .eventBrowsing → a.previous = .browsing) := by
  decide +kernel

/-- One comes to the results of a search by submitting it, or by going back to them. -/
lemma comes_to_search : ∀ a ∈ places, ∀ t ∈ standard.transitions a.state,
    t.next a.previous = .search → t.action = .searchSubmitted ∧ a.state = .browsing ∨
      t.action = .back ∧ (a.state = .click ∨ a.state = .nextPage) := by
  decide +kernel

end Table

namespace Visit

/-- **Who says to go home.** A visitor who goes back and names the home page comes to it. One who
leaves the results of a search for the home page comes to it after submitting the search; after
coming back to the results, it is once more the product or the later page that the visitor comes
to. -/
theorem run_goesHome (id user : String) (now ttl : Time) (turns : List Turn)
    (before after : List Event) (e : Event)
    (h : ((start id user now ttl).run .standard turns).events = before ++ e :: after)
    (hback : e.action = .back) :
    (e.NamesHome → e.state = .browsing) ∧
    (e.LeavesForHome → ∃ earlier last, before = earlier ++ [last] ∧
      (last.action = .searchSubmitted ∧ e.state = .browsing ∨
        last.action = .back ∧ (e.state = .click ∨ e.state = .nextPage))) := by
  have hreached : Reached .standard ((start id user now ttl).run .standard turns) :=
    ⟨id, user, now, ttl, turns, rfl⟩
  have hwalk := (hreached.walking Table.standard_leadsInside).walk
  rw [h] at hwalk
  obtain ⟨hhome, hresults⟩ := (hreached.told e (by simp [h])).saysHome hback
  obtain ⟨a, ha, t, hmem, haction, hprevious, hstate, hreach, hcame⟩ := hwalk.upTo.from_place
  obtain ⟨hto, hevent⟩ := Table.goes_back a ha t hmem (haction.symm.trans hback)
  refine ⟨fun hsays => ?_, fun hsays => ?_⟩
  · rw [hstate, hto]
    exact hevent (hprevious.symm.trans (hhome.mp hsays))
  · have hsearch : reachedBy before = .search := by
      rw [hreach, ← hprevious]
      exact hresults.mp hsays
    rcases List.eq_nil_or_concat before with rfl | ⟨earlier, last, rfl⟩
    · cases hsearch
    rw [List.concat_eq_append] at hwalk hsearch hcame ⊢
    obtain ⟨a', ha', t', hmem', haction', hprevious', hstate', -⟩ := hwalk.upTo.init.1.from_place
    rw [reachedBy_concat, hstate'] at hsearch
    rw [cameFrom_concat, hprevious'] at hcame
    refine ⟨earlier, last, rfl, ?_⟩
    rw [haction', hstate, hto, ← hcame]
    exact Table.comes_to_search a' ha' t' hmem' hsearch

/-- What an event does, and where it leads from and to. -/
def move (e : Event) : Action × State × State := (e.action, e.previous, e.state)

/-- Whoever goes back from the results of a search last leaves them for the home page. -/
lemma last_leaves {v : Visit} (hv : Reached .standard v) {moves : List (Action × State × State)}
    {s : State} (h : v.events.map move = moves ++ [(.back, .search, s)]) :
    ∃ before e, v.events = before ++ [e] ∧ before.map move = moves ∧
      move e = (.back, .search, s) ∧ e.LeavesForHome := by
  obtain ⟨before, last, hevents, hbefore, hlast⟩ := List.map_eq_append_iff.mp h
  obtain ⟨e, rfl, he⟩ := List.map_eq_singleton_iff.mp hlast
  have htold : Told e := hv.told e (by simp [hevents])
  refine ⟨before, e, hevents, hbefore, he, ?_⟩
  exact (htold.saysHome (congrArg (·.1) he)).2.mpr (congrArg (·.2.1) he)

/-- A visitor who searches for something and goes back comes home. -/
theorem run_goesHome_search :
    ∃ before e, ((start "sess" "user" 0 10).run .standard (seeded [7, 0])).events =
        before ++ e :: [] ∧
      e.action = .back ∧ e.LeavesForHome ∧ e.state = .browsing := by
  have hmoves : ((start "sess" "user" 0 10).run .standard (seeded [7, 0])).events.map move =
      [(.searchSubmitted, .browsing, .search)] ++ [(.back, .search, .browsing)] := by
    decide +kernel
  obtain ⟨before, e, hevents, hbefore, he, hleaves⟩ := last_leaves ⟨_, _, _, _, _, rfl⟩ hmoves
  have hback : e.action = .back := congrArg (·.1) he
  refine ⟨before, e, hevents, hback, hleaves, ?_⟩
  obtain ⟨earlier, last, rfl, ⟨-, hstate⟩ | ⟨hlast, -⟩⟩ :=
    (run_goesHome "sess" "user" 0 10 _ before [] e hevents hback).2 hleaves
  · exact hstate
  · have hsearch := congrArg List.getLast? hbefore
    simp [move, hlast] at hsearch

/-- A visitor who turns a page of results and goes back twice. -/
def lost : Visit := (start "sess" "user" 0 10).run .standard (seeded [7, 3, 2, 0])

/-- The visitor leaves the results for the home page, and comes to the page behind them. -/
theorem lost_elsewhere :
    ∃ before e, lost.events = before ++ [e] ∧ e.action = .back ∧ e.LeavesForHome ∧
      e.state = .nextPage := by
  have hmoves : lost.events.map move =
      [(.searchSubmitted, .browsing, .search), (.pageViewed, .search, .nextPage),
        (.back, .nextPage, .search)] ++ [(.back, .search, .nextPage)] := by
    decide +kernel
  obtain ⟨before, e, hevents, -, he, hleaves⟩ := last_leaves ⟨_, _, _, _, _, rfl⟩ hmoves
  exact ⟨before, e, hevents, congrArg (·.1) he, hleaves, congrArg (·.2.2) he⟩

end Visit

end ShopTraffic
