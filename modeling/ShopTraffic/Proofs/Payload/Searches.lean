import Mathlib.Algebra.Group.Nat.Defs
import ShopTraffic.Proofs.Behaviour.Histories
import ShopTraffic.Proofs.Behaviour.Places

/-!
What was searched for. The results of a search are left and come back to in many ways, but nobody is
there who has not submitted a search before. Its keyword stays the same until the next search, and
the page index goes up with every further page of results that is turned to, and at nothing else.
-/

namespace ShopTraffic

open ShopTraffic.Random

namespace Event

def query? (e : Event) : Option Json := e.extra.get? "query"

def pageIndex? (e : Event) : Option Json := e.extra.get? "page_index"

def turnsPage (e : Event) : Bool := e.action = .pageViewed && e.state = .nextPage

end Event

/-- The page that the results are at, after the events since the search. -/
def pageAfter (since : List Event) : Nat := min (2 ^ 32 - 1) (1 + since.countP Event.turnsPage)

lemma pageAfter_concat (since : List Event) (e : Event) :
    pageAfter (since ++ [e]) =
      if e.turnsPage then min (2 ^ 32 - 1) (pageAfter since + 1) else pageAfter since := by
  rw [pageAfter, pageAfter, List.countP_append, List.countP_singleton]
  split <;> omega

lemma Session.turnPage_toNat (s : Session) :
    s.turnPage.pageIndex.toNat = min (2 ^ 32 - 1) (s.pageIndex.toNat + 1) := by
  have hlt := s.pageIndex.toNat_lt
  simp only [turnPage]
  split
  · next h =>
    rw [h]
    rfl
  · next h =>
    have hne : s.pageIndex.toNat ≠ 2 ^ 32 - 1 := fun hx => h (UInt32.toNat_inj.mp hx)
    rw [UInt32.toNat_add, UInt32.toNat_one]
    omega

def Place.AtResults (a : Place) : Prop :=
  a.state = .search ∨ a.state = .nextPage ∨ a.previous = .search ∨ a.previous = .nextPage

instance (a : Place) : Decidable a.AtResults := inferInstanceAs (Decidable (_ ∨ _))

namespace Payload

variable {s : Session} {a : Action} {p : Part}

/-- What a payload has to do with what is searched for. -/
structure Searches (s : Session) (a : Action) (s' : Session) (query? index? : Option Json) :
    Prop where
  query : ∀ q, query? = some q → q = .text s'.keyword ∧
    (a = .searchSubmitted ∨ Place.AtResults ⟨s.state, s.previous⟩)
  index : ∀ i, index? = some i → i = .ofNat s'.pageIndex.toNat ∧
    (a = .searchSubmitted ∨ Place.AtResults ⟨s.state, s.previous⟩)
  submitted : a = .searchSubmitted → query? = some (.text s'.keyword)
  page : s'.pageIndex =
    if a = .pageViewed ∧ s.state = .nextPage then s.turnPage.pageIndex else s.pageIndex

lemma Makes.searches (h : Makes s a p) :
    Searches s a p.session (Fields.last? p.members "query")
      (Fields.last? p.members "page_index") := by
  cases h with
  | searched stay =>
    exact ⟨fun q hq => ⟨(Option.some.inj hq).symm, .inl rfl⟩,
      fun i hi => ⟨(Option.some.inj hi).symm, .inl rfl⟩, fun _ => rfl, rfl⟩
  | pageTurned stay h =>
    exact ⟨fun q hq => ⟨(Option.some.inj hq).symm, .inr (.inr (.inl h))⟩,
      fun i hi => ⟨(Option.some.inj hi).symm, .inr (.inr (.inl h))⟩, nofun,
      (if_pos ⟨rfl, h⟩).symm⟩
  | homeViewed stay h => exact ⟨nofun, nofun, nofun, (if_neg fun hp => h hp.2).symm⟩
  | found p how hp h | nothingFound h | resultsBack stay h | resultsExited stay h =>
    exact ⟨fun q hq => ⟨(Option.some.inj hq).symm, .inr (.inr (.inr (.inl h)))⟩, nofun, nofun, rfl⟩
  | foundLater p how stay hp h | nothingFoundLater stay h =>
    exact ⟨fun q hq => ⟨(Option.some.inj hq).symm, .inr (.inr (.inr (.inr h)))⟩,
      fun i hi => ⟨(Option.some.inj hi).symm, .inr (.inr (.inr (.inr h)))⟩, nofun, rfl⟩
  | laterPageBack stay stay' h | laterPageExited stay stay' h =>
    exact ⟨fun q hq => ⟨(Option.some.inj hq).symm, .inr (.inr (.inr (.inr h)))⟩, nofun, nofun, rfl⟩
  | cartCheckedOut stay | cartBack stay | cartExited stay =>
    refine ⟨?_, ?_, nofun, rfl⟩ <;>
      · rw [Fields.last?_append, cart, Fields.last?_append, Fields.last?_append]
        split <;> exact nofun
  | homeLeft a ha => rcases ha with rfl | rfl <;> exact ⟨nofun, nofun, nofun, rfl⟩
  | _ => exact ⟨nofun, nofun, nofun, rfl⟩

lemma Tells.searches {g : Generated} (h : Tells s a g) {e : Event} (he : e.extra = []) :
    Searches s a g.session (e.withExtra g.fields).query? (e.withExtra g.fields).pageIndex? := by
  obtain ⟨p, hp, hsession, hget⟩ := h.get? he
  rw [Event.query?, Event.pageIndex?, hget _ (by decide) rfl, hget _ (by decide) rfl, hsession]
  exact hp.searches

end Payload

/-- One comes to the results by a search, or was there before. -/
lemma Table.comes_to_results : ∀ a ∈ places, ∀ t ∈ standard.transitions a.state,
    (t.action = .searchSubmitted → t.next a.previous = .search) ∧
      (Place.AtResults ⟨t.next a.previous, a.state⟩ →
        t.action = .searchSubmitted ∨ a.AtResults) := by
  decide +kernel

namespace Visit

/-- What an event says of a search agrees with the last search that was submitted. -/
structure Cites (before : List Event) (e : Event) : Prop where
  query : ∀ q, e.query? = some q → ∃ search since text,
    LastOf .searchSubmitted (before ++ [e]) search since ∧ text ≠ "" ∧
      search.query? = some (.text text) ∧ q = .text text
  index : ∀ i, e.pageIndex? = some i → ∃ search since,
    LastOf .searchSubmitted (before ++ [e]) search since ∧ i = .ofNat (pageAfter since)

/-- What is remembered at the results agrees with the last search. -/
structure Searching (v : Visit) : Prop where
  found : v.place.AtResults → ∃ search since, LastOf .searchSubmitted v.events search since ∧
    v.session.keyword ≠ "" ∧ search.query? = some (.text v.session.keyword) ∧
      v.session.pageIndex.toNat = pageAfter since
  cites : Each Cites v.events

variable {v : Visit} {t : Transition} {s : Session} {e : Event} {g : Payload.Generated}

structure SearchesOn (v : Visit) (t : Transition) (e : Event) (s' : Session) : Prop where
  placed : v.place ∈ Table.places
  mem : t ∈ Table.standard.transitions v.place.state
  action : e.action = t.action
  keyword : t.action ≠ .searchSubmitted ∧ s'.keyword = v.session.keyword ∧
      s'.pageIndex.toNat =
        (if e.turnsPage then min (2 ^ 32 - 1) (v.session.pageIndex.toNat + 1)
        else v.session.pageIndex.toNat) ∨
    t.action = .searchSubmitted ∧ s'.keyword ∈ Catalog.keywords ∧ s'.pageIndex.toNat = 1
  query : ∀ q, e.query? = some q → q = .text s'.keyword ∧
    Place.AtResults ⟨t.next v.place.previous, v.place.state⟩
  index : ∀ i, e.pageIndex? = some i → i = .ofNat s'.pageIndex.toNat ∧
    Place.AtResults ⟨t.next v.place.previous, v.place.state⟩
  submitted : t.action = .searchSubmitted → e.query? = some (.text s'.keyword)

lemma MovesOn.searchesOn (hm : v.MovesOn t s e) (hg : Payload.Tells s e.action g)
    (he : e.extra = []) : v.SearchesOn t (e.withExtra g.fields) g.session := by
  have hs := hg.searches he
  have hkeyword : g.session.keyword = s.keyword := (congrArg Session.keyword hg.keeps :)
  obtain ⟨hsearch, -⟩ := Table.comes_to_results _ hm.placed t hm.mem
  have hresults : e.action = .searchSubmitted ∨ Place.AtResults ⟨s.state, s.previous⟩ →
      Place.AtResults ⟨t.next v.place.previous, v.place.state⟩ := by
    rw [hm.action, hm.state, hm.previous]
    exact fun h => h.elim (fun h => .inl (hsearch h)) id
  have hpage := hs.page
  rw [hm.action] at hpage
  refine
    { placed := hm.placed
      mem := hm.mem
      action := hm.action
      keyword := ?_
      query := fun q hq => ⟨(hs.query q hq).1, hresults (hs.query q hq).2⟩
      index := fun i hi => ⟨(hs.index i hi).1, hresults (hs.index i hi).2⟩
      submitted := fun h => hs.submitted (hm.action.trans h) }
  rcases hm.keyword with ⟨hne, hsame, hindex⟩ | ⟨hsubmitted, hword, hindex⟩
  · refine .inl ⟨hne, hkeyword.trans hsame, ?_⟩
    have hturns : (e.withExtra g.fields).turnsPage = true ↔
        t.action = .pageViewed ∧ s.state = .nextPage := by
      rw [Event.turnsPage, Bool.and_eq_true, decide_eq_true_iff, decide_eq_true_iff, ← hm.action,
        ← hm.told.1]
      rfl
    rw [hpage, ← hindex]
    by_cases h : t.action = .pageViewed ∧ s.state = .nextPage
    · rw [if_pos h, if_pos (hturns.mpr h), s.turnPage_toNat]
    · rw [if_neg h, if_neg fun hx => h (hturns.mp hx)]
  · refine .inr ⟨hsubmitted, hkeyword ▸ hword, ?_⟩
    rw [hpage, if_neg fun h => Action.noConfusion (hsubmitted.symm.trans h.1), hindex]
    rfl

/-- Where the results are, what is remembered is what was searched for last. -/
lemma Searching.found_after (h : Searching v) {s' : Session} (hs : v.SearchesOn t e s')
    (hto : Place.AtResults ⟨t.next v.place.previous, v.place.state⟩) :
    ∃ search since, LastOf .searchSubmitted (v.events ++ [e]) search since ∧ s'.keyword ≠ "" ∧
      search.query? = some (.text s'.keyword) ∧ s'.pageIndex.toNat = pageAfter since := by
  rcases hs.keyword with ⟨hne, hkeyword, hindex⟩ | ⟨hsubmitted, hword, hindex⟩
  · rcases (Table.comes_to_results _ hs.placed t hs.mem).2 hto with hsubmitted | hfrom
    · exact absurd hsubmitted hne
    · obtain ⟨search, since, hlast, htext, hquery, hpage⟩ := h.found hfrom
      refine ⟨search, since ++ [e], hlast.concat (hs.action ▸ hne), hkeyword ▸ htext,
        hkeyword ▸ hquery, ?_⟩
      rw [hindex, pageAfter_concat, hpage]
  · have hwords : ∀ k ∈ Catalog.keywords, k ≠ "" := by decide
    exact ⟨e, [], lastOf_concat _ (hs.action.trans hsubmitted), hwords _ hword,
      hs.submitted hsubmitted, hindex⟩

lemma Searching.cites_after (h : Searching v) {s' : Session} (hs : v.SearchesOn t e s') :
    Cites v.events e where
  query q hq := by
    obtain ⟨htext, hto⟩ := hs.query q hq
    obtain ⟨search, since, hlast, hne, hquery, -⟩ := h.found_after hs hto
    exact ⟨search, since, s'.keyword, hlast, hne, hquery, htext⟩
  index i hi := by
    obtain ⟨hpage, hto⟩ := hs.index i hi
    obtain ⟨search, since, hlast, -, -, hafter⟩ := h.found_after hs hto
    exact ⟨search, since, hlast, by rw [hpage, hafter]⟩

lemma Reached.searching (h : Reached .standard v) : Searching v := by
  refine h.induct_moves (P := Searching) (fun _ _ _ _ => ⟨nofun, each_nil Cites⟩)
    (fun v now ttl h => ⟨h.found, h.cites⟩) fun v t s e g h hm hg he => ?_
  have hs := hm.searchesOn hg he
  have hplace := hm.place_after hg.keeps (v.events ++ [e.withExtra g.fields])
  constructor
  case found =>
    rw [hplace]
    exact h.found_after hs
  case cites => exact h.cites.concat (h.cites_after hs)

/-- **Every page of results is one of the last search.** An event that names a query comes with or
after a submitted search, and its query is the one of the last of them, which is not empty. A page
index counts the further pages that were turned to since then, from one up to the largest number
that it can be, whatever else the visitor did between. -/
theorem run_searches (id user : String) (now ttl : Time) (turns : List Turn)
    (before after : List Event) (e : Event)
    (h : ((start id user now ttl).run .standard turns).events = before ++ e :: after) :
    (∀ q, e.query? = some q → ∃ search since text,
      LastOf .searchSubmitted (before ++ [e]) search since ∧ text ≠ "" ∧
        search.query? = some (.text text) ∧ q = .text text) ∧
    (∀ i, e.pageIndex? = some i → ∃ search since,
      LastOf .searchSubmitted (before ++ [e]) search since ∧
        i = .ofNat (min (2 ^ 32 - 1) (1 + since.countP Event.turnsPage))) := by
  have hreached : Reached .standard ((start id user now ttl).run .standard turns) :=
    ⟨id, user, now, ttl, turns, rfl⟩
  obtain ⟨hquery, hindex⟩ := hreached.searching.cites before e after h
  exact ⟨hquery, hindex⟩

/-- A visitor who turns to the second page of the results, goes back to the first, comes to the
second once more, and clicks a product there. -/
def returned : Visit := (start "sess" "user" 0 10).run .standard (seeded [7, 3, 2, 0, 5])

lemma returned_events :
    ∃ search turned away again click,
      returned.events = [search, turned, away, again, click] ∧
      [search, turned, away, again, click].map (fun e => (e.action, e.turnsPage)) =
        [(.searchSubmitted, false), (.pageViewed, true), (.back, false), (.back, false),
          (.productClicked, false)] ∧
      click.query?.isSome ∧ click.pageIndex?.isSome := by
  have h : returned.events.map
      (fun e => ((e.action, e.turnsPage), e.query?.isSome, e.pageIndex?.isSome)) =
      [((.searchSubmitted, false), true, true), ((.pageViewed, true), true, true),
        ((.back, false), true, false), ((.back, false), true, false),
        ((.productClicked, false), true, true)] := by
    decide +kernel
  obtain ⟨search, _, hevents, -, h₁⟩ := List.map_eq_cons_iff.mp h
  obtain ⟨turned, _, rfl, -, h₂⟩ := List.map_eq_cons_iff.mp h₁
  obtain ⟨away, _, rfl, -, h₃⟩ := List.map_eq_cons_iff.mp h₂
  obtain ⟨again, _, rfl, -, h₄⟩ := List.map_eq_cons_iff.mp h₃
  obtain ⟨click, _, rfl, hclick, h₅⟩ := List.map_eq_cons_iff.mp h₄
  obtain rfl := List.map_eq_nil_iff.mp h₅
  obtain ⟨hquery, hindex⟩ := Prod.mk.inj (Prod.mk.inj hclick).2
  rw [hevents] at h
  exact ⟨search, turned, away, again, click, hevents,
    by simpa using congrArg (List.map Prod.fst) h, hquery, hindex⟩

/-- The product is clicked at the second page, though it has been come to twice, and it was found
by what was searched for at first. -/
theorem run_searches_returned :
    ∃ search between click, returned.events = search :: between ++ [click] ∧
      search.action = .searchSubmitted ∧ click.action = .productClicked ∧
      (∃ text, text ≠ "" ∧ search.query? = some (.text text) ∧ click.query? = some (.text text)) ∧
      click.pageIndex? = some (.ofNat 2) := by
  obtain ⟨search, turned, away, again, click, hevents, h, hasQuery, hasIndex⟩ := returned_events
  simp only [List.map_cons, List.map_nil, List.cons.injEq, Prod.mk.injEq, and_true] at h
  obtain ⟨⟨hsearch, -⟩, ⟨hturned, hpage⟩, ⟨haway, hstay⟩, ⟨hagain, hsame⟩, hclick, hlook⟩ := h
  have hlast : LastOf .searchSubmitted [search, turned, away, again, click] search
      [turned, away, again, click] :=
    ⟨⟨[], rfl⟩, hsearch, by simp [hturned, haway, hagain, hclick]⟩
  obtain ⟨query, hquery⟩ := Option.isSome_iff_exists.mp hasQuery
  obtain ⟨index, hindex⟩ := Option.isSome_iff_exists.mp hasIndex
  obtain ⟨hqueries, hindices⟩ :=
    run_searches "sess" "user" 0 10 _ [search, turned, away, again] [] click hevents
  obtain ⟨first, since, text, hfirst, hne, htext, rfl⟩ := hqueries query hquery
  rw [← (hlast.unique hfirst).1] at htext
  obtain ⟨first', since', hfirst', rfl⟩ := hindices index hindex
  rw [← (hlast.unique hfirst').2] at hindex
  refine ⟨search, [turned, away, again], click, hevents, hsearch, hclick,
    ⟨text, hne, htext, hquery⟩, ?_⟩
  simpa [hpage, hstay, hsame, hlook] using hindex

end Visit

end ShopTraffic
