import ShopTraffic.Proofs.Behaviour.Visits

/-!
The places of the ticket shop: where a visitor can be, together with where the visitor came from.
There are few of them, so what every move of a visit has in common can be looked up place by place.
-/

namespace ShopTraffic

open ShopTraffic.Random Relation

namespace Table

def places : List Place :=
  [⟨.browsing, .outside⟩, ⟨.browsing, .browsing⟩, ⟨.browsing, .eventBrowsing⟩,
   ⟨.browsing, .search⟩, ⟨.browsing, .click⟩, ⟨.eventBrowsing, .browsing⟩,
   ⟨.search, .browsing⟩, ⟨.search, .click⟩, ⟨.search, .nextPage⟩,
   ⟨.nextPage, .search⟩, ⟨.nextPage, .nextPage⟩, ⟨.nextPage, .click⟩,
   ⟨.click, .browsing⟩, ⟨.click, .search⟩, ⟨.click, .nextPage⟩, ⟨.click, .addToCart⟩,
   ⟨.addToCart, .click⟩, ⟨.purchase, .click⟩, ⟨.purchase, .addToCart⟩,
   ⟨.exit, .browsing⟩, ⟨.exit, .eventBrowsing⟩, ⟨.exit, .search⟩, ⟨.exit, .nextPage⟩,
   ⟨.exit, .click⟩, ⟨.exit, .addToCart⟩, ⟨.exit, .purchase⟩]

/-- **No other place is ever come to.** -/
lemma standard_visits {a : Place} (h : standard.Visits a) : a ∈ places := by
  have hclosed : ∀ a ∈ places, ∀ t ∈ standard.transitions a.state,
      (⟨t.next a.previous, a.state⟩ : Place) ∈ places := by
    decide +kernel
  induction h with
  | refl => decide
  | tail _ hnext ih =>
    obtain ⟨t, hmem, -, rfl⟩ := hnext
    exact hclosed _ ih t hmem

variable {events : List Event} {e : Event}

/-- Every event of a walk is a move from a place that can be come to. -/
lemma Walk.from_place (h : standard.Walk (events ++ [e])) :
    ∃ a ∈ places, ∃ t ∈ standard.transitions a.state, e.action = t.action ∧
      e.previous = a.state ∧ e.state = t.next a.previous ∧ reachedBy events = a.state ∧
      cameFrom events = a.previous := by
  obtain ⟨hw, hprevious, t, hmem, -, haction, hstate⟩ := h.init
  refine ⟨_, standard_visits (hw.visits standard_leadsInside), t, hprevious ▸ hmem, haction.symm,
    hprevious, ?_, rfl, rfl⟩
  rw [hstate, Transition.next, hw.backTo_cameFrom standard_leadsInside]

end Table

namespace Visit

def place (v : Visit) : Place := ⟨v.session.state, v.session.previous⟩

/-- In the ticket shop, the visit goes on along the transition; the session is `s` then, and the
event `e` tells of the move. -/
structure MovesOn (v : Visit) (t : Transition) (s : Session) (e : Event) : Prop where
  placed : v.place ∈ Table.places
  mem : t ∈ Table.standard.transitions v.place.state
  state : s.state = t.next v.place.previous
  previous : s.previous = v.place.state
  action : e.action = t.action
  told : e.state = s.state ∧ e.previous = s.previous
  picked : s.picked = v.session.picked
  quantity : s.quantity = v.session.quantity
  /-- Only a submitted search changes what was searched for. -/
  keyword : t.action ≠ .searchSubmitted ∧ s.keyword = v.session.keyword ∧
      s.pageIndex = v.session.pageIndex ∨
    t.action = .searchSubmitted ∧ s.keyword ∈ Catalog.keywords ∧ s.pageIndex = 1

variable {v : Visit}

lemma Walking.place_mem (h : Walking .standard v) : v.place ∈ Table.places := by
  rw [place, h.state, h.previous]
  exact Table.standard_visits (h.walk.visits Table.standard_leadsInside)

lemma Walking.enter_eq {T : Table} (h : Walking T v) (hT : T.LeadsInside) :
    v.session.enter = v.session :=
  Session.enter_of_inside (state_inside hT h)

lemma Walking.movesOn (h : Walking .standard v) {now : Time} {t : Transition} {s : Session}
    {e : Event} (ht : v.session.Took .standard now t s e) : v.MovesOn t s e := by
  obtain ⟨hmem, -, hsession, haction, ⟨-, -, hstate, hprevious, -⟩, -⟩ := ht
  rw [h.enter_eq Table.standard_leadsInside] at hmem hsession
  have hplace := h.place_mem
  rcases hsession with ⟨rfl, hne⟩ | ⟨hsearch, k, hk, rfl⟩
  · exact ⟨hplace, hmem, rfl, rfl, haction, ⟨hstate, hprevious⟩, rfl, rfl, .inl ⟨hne, rfl, rfl⟩⟩
  · exact ⟨hplace, hmem, rfl, rfl, haction, ⟨hstate, hprevious⟩, rfl, rfl,
      .inr ⟨hsearch, hk, rfl⟩⟩

/-- The payload does not change where the visitor is. -/
lemma MovesOn.place_after {t : Transition} {s : Session} {e : Event} {g : Payload.Generated}
    (h : v.MovesOn t s e) (hg : g.session.bare = s.bare) (events : List Event) :
    place ⟨g.session, events⟩ = ⟨t.next v.place.previous, v.place.state⟩ := by
  have hstate : g.session.state = s.state := (congrArg Session.state hg :)
  have hprevious : g.session.previous = s.previous := (congrArg Session.previous hg :)
  rw [place, hstate, hprevious, h.state, h.previous]

/-- What holds at the beginning of a visit to the ticket shop, whenever it is prolonged, and after
every move, holds all along. -/
lemma Reached.induct_moves {P : Visit → Prop}
    (hstart : ∀ id user now ttl, P (start id user now ttl))
    (hrenew : ∀ v now ttl, P v → P { v with session := v.session.touch now ttl })
    (hmove : ∀ v t s e g, P v → v.MovesOn t s e → Payload.Tells s e.action g → e.extra = [] →
      P ⟨g.session, v.events ++ [e.withExtra g.fields]⟩)
    (h : Reached .standard v) : P v := by
  refine (h.induct (P := fun v => Walking .standard v ∧ P v)
    (fun id user now ttl => ⟨⟨Table.standard.walk_nil, rfl, rfl⟩, hstart id user now ttl⟩) ?_).2
  intro v v' ⟨hw, hv⟩ he
  refine ⟨he.walking Table.standard_leadsInside hw, ?_⟩
  cases he with
  | renewed now ttl => exact hrenew v now ttl hv
  | stayed =>
    rw [hw.enter_eq Table.standard_leadsInside]
    exact hv
  | moved now t s e g ht hg => exact hmove v t s e g hv (hw.movesOn ht) hg ht.extra

end Visit

end ShopTraffic
