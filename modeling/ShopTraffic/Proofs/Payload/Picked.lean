import ShopTraffic.Proofs.Behaviour.Visits

/-!
The product of a visit. A click on a product is remembered, and what is put into the cart or paid is
the product that was remembered last. A search can lead to no product: a click on its results then
names none and changes nothing, so the product in the cart can be an older one.
-/

namespace ShopTraffic

open ShopTraffic.Random

namespace Action

def picks (a : Action) : Prop := a = productClicked ∨ a = categoryClicked

instance (a : Action) : Decidable a.picks := inferInstanceAs (Decidable (_ ∨ _))

def takes (a : Action) : Prop := a = addToCart ∨ a = purchased

end Action

def Event.product? (e : Event) : Option Json := e.extra.get? "product_id"

/-- How the keyword of a search was understood. -/
def Event.searchType? (e : Event) : Option Json := e.extra.get? "search_type"

/-- The product of the last click that led to one; the empty text if there is none. -/
def lastPicked (events : List Event) : Json :=
  (((events.filter (·.action.picks)).filterMap (·.product?)).getLast?).getD (.text "")

namespace Payload

variable {s : Session} {a : Action} {p : Part}

/-- What a payload has to do with the product that is remembered. -/
structure Handles (s : Session) (a : Action) (s' : Session) (product? searchType? : Option Json) :
    Prop where
  picks : a.picks → product? = some (.text s'.picked.product) ∨
    product? = none ∧ s'.picked = s.picked ∧
      a = .productClicked ∧ searchType? = some (.text Match.nothing.name)
  keeps : ¬a.picks → s'.picked = s.picked
  takes : a.takes → product? = some (.text s.picked.product)

/-- The members of the picked product are those that name it, whatever comes after them. -/
lemma last?_picked (s : Session) (categoryName : String) (hname : categoryName ≠ "product_id")
    {more : List (String × Json)} (hmore : Fields.last? more "product_id" = none) :
    Fields.last? (pickedMembers s categoryName ++ more) "product_id" =
      some (.text s.picked.product) := by
  rw [Fields.last?_append, hmore, Option.none_or]
  simp [Fields.last?, pickedMembers, Fields.lookup_cons, hname.symm]

lemma Makes.handles (h : Makes s a p) :
    Handles s a p.session (Fields.last? p.members "product_id")
      (Fields.last? p.members "search_type") := by
  cases h with
  | found | foundLater | exposed | countryOpened | categoryOpened =>
    exact ⟨fun _ => .inl rfl, fun h => absurd (by decide) h, nofun⟩
  | nothingFound | nothingFoundLater =>
    exact ⟨fun _ => .inr ⟨rfl, rfl, rfl, rfl⟩, fun _ => rfl, nofun⟩
  | addedToCart quantity =>
    exact ⟨nofun, fun _ => rfl, fun _ => last?_picked s "category" (by decide) rfl⟩
  | cartCheckedOut stay =>
    refine ⟨nofun, fun _ => rfl, fun _ => ?_⟩
    rw [cart, List.append_assoc, List.append_assoc]
    refine last?_picked s "product_category" (by decide) ?_
    split <;> rfl
  | purchased quantity method stay =>
    exact ⟨nofun, fun _ => rfl,
      fun _ => last?_picked { s with quantity } "product_category" (by decide) rfl⟩
  | homeLeft a ha =>
    rcases ha with rfl | rfl <;> exact ⟨nofun, fun _ => rfl, nofun⟩
  | _ => exact ⟨nofun, fun _ => rfl, nofun⟩

lemma Tells.handles {g : Generated} (h : Tells s a g) {e : Event} (he : e.extra = []) :
    Handles s a g.session (e.withExtra g.fields).product? (e.withExtra g.fields).searchType? := by
  obtain ⟨p, hp, hsession, hget⟩ := h.get? he
  rw [Event.product?, Event.searchType?, hget _ (by decide) rfl, hget _ (by decide) rfl, hsession]
  exact hp.handles

end Payload

/-! ### Clicks -/

variable {events : List Event} {e : Event}

lemma lastPicked_concat (events : List Event) (e : Event) :
    lastPicked (events ++ [e]) =
      if e.action.picks then e.product?.getD (lastPicked events) else lastPicked events := by
  unfold lastPicked
  rw [List.filter_append, List.filterMap_append, List.getLast?_append]
  by_cases h : e.action.picks
  · rw [if_pos h]
    cases hp : e.product? <;> simp [h, hp]
  · rw [if_neg h]
    simp [h]

namespace Visit

/-- The session remembers the product of the last click that led to one. Whatever was put into the
cart or paid was the product of the last such click before, and every other click was on the results
of a search that matched nothing. -/
structure Picks (v : Visit) : Prop where
  remembers : lastPicked v.events = .text v.session.picked.product
  takes : ∀ before e after, v.events = before ++ e :: after → e.action.takes →
    e.product? = some (lastPicked before)
  misses : ∀ e ∈ v.events, e.action.picks → e.product? = none →
    e.action = .productClicked ∧ e.searchType? = some (.text Match.nothing.name)

lemma Effect.picks {T : Table} {v v' : Visit} (he : Effect T v v') (h : Picks v) : Picks v' := by
  cases he with
  | renewed | stayed => exact ⟨h.remembers, h.takes, h.misses⟩
  | moved now t s e g ht hg =>
    have hpicked : s.picked = v.session.picked := by
      rcases ht.session with ⟨rfl, -⟩ | ⟨-, k, -, rfl⟩ <;> rfl
    obtain ⟨hpicks, hkeeps, htakes⟩ := hg.handles ht.extra
    rw [hpicked] at hpicks hkeeps htakes
    constructor
    case remembers =>
      rw [lastPicked_concat]
      split
      · next hp =>
        rcases hpicks hp with hproduct | ⟨hproduct, hsame, -⟩
        · rw [hproduct]
          rfl
        · rw [hproduct, hsame]
          exact h.remembers
      · next hp => rw [hkeeps hp, h.remembers]
    case takes =>
      intro before e' after hsplit htaken
      rcases append_cons_of_concat hsplit with ⟨rfl, rfl⟩ | ⟨after', hsplit⟩
      · rw [h.remembers]
        exact htakes htaken
      · exact h.takes before e' after' hsplit htaken
    case misses =>
      intro e' he' hp hnone
      rcases List.mem_append.mp he' with he' | he'
      · exact h.misses e' he' hp hnone
      · obtain rfl := List.mem_singleton.mp he'
        rcases hpicks hp with hproduct | ⟨-, -, hmiss⟩
        · exact absurd (hproduct.symm.trans hnone) nofun
        · exact hmiss

lemma Reached.picks {T : Table} {v : Visit} (h : Reached T v) : Picks v :=
  h.induct (P := Picks)
    (fun _ _ _ _ => ⟨rfl, fun before e after hsplit => by simp [start] at hsplit, nofun⟩)
    fun _ _ h he => he.picks h

/-- **What is bought is what was clicked.** Whatever is put into the cart or paid is the product of
the last click before that led to one, and every click leads to one unless its search matched
nothing. -/
theorem run_picked (T : Table) (id user : String) (now ttl : Time) (turns : List Turn)
    (before after : List Event) (e : Event)
    (h : ((start id user now ttl).run T turns).events = before ++ e :: after) :
    (e.action = .addToCart ∨ e.action = .purchased → e.product? = some (lastPicked before)) ∧
    (e.action = .productClicked ∨ e.action = .categoryClicked →
      (∃ product, e.product? = some product) ∨
      e.action = .productClicked ∧ e.searchType? = some (.text "no_match")) := by
  have hpicks : Picks ((start id user now ttl).run T turns) :=
    Reached.picks (T := T) ⟨id, user, now, ttl, turns, rfl⟩
  refine ⟨hpicks.takes before e after h, fun hp => ?_⟩
  rcases hproduct : e.product? with _ | product
  · exact .inr (hpicks.misses e (by simp [h]) hp hproduct)
  · exact .inl ⟨product, rfl⟩

/-- A visitor clicks a product on the home page, comes back, searches for something that the shop
does not have, clicks there, and puts a product into the cart. -/
def misled : Visit :=
  (start "sess" "user" 0 10).run .standard (seeded [5, 2, 182, 1, 5])

lemma misled_events :
    ∃ first back search click cart, misled.events = [first, back, search, click, cart] ∧
      [first, back, search, click, cart].map (fun e => (e.action, e.product?.isSome)) =
        [(.productClicked, true), (.back, true), (.searchSubmitted, false),
          (.productClicked, false), (.addToCart, true)] := by
  have h : misled.events.map (fun e => (e.action, e.product?.isSome)) =
      [(.productClicked, true), (.back, true), (.searchSubmitted, false), (.productClicked, false),
        (.addToCart, true)] := by
    decide +kernel
  obtain ⟨first, _, hevents, -, h₁⟩ := List.map_eq_cons_iff.mp h
  obtain ⟨back, _, rfl, -, h₂⟩ := List.map_eq_cons_iff.mp h₁
  obtain ⟨search, _, rfl, -, h₃⟩ := List.map_eq_cons_iff.mp h₂
  obtain ⟨click, _, rfl, -, h₄⟩ := List.map_eq_cons_iff.mp h₃
  obtain ⟨cart, _, rfl, -, h₅⟩ := List.map_eq_cons_iff.mp h₄
  obtain rfl := List.map_eq_nil_iff.mp h₅
  exact ⟨first, back, search, click, cart, hevents, hevents ▸ h⟩

/-- The visitor buys what was clicked before the search. -/
theorem run_picked_misled :
    ∃ before first cart, misled.events = before ++ cart :: [] ∧ before.head? = some first ∧
      cart.action = .addToCart ∧ cart.product? = first.product? := by
  obtain ⟨first, back, search, click, cart, hevents, h⟩ := misled_events
  simp only [List.map_cons, List.map_nil, List.cons.injEq, Prod.mk.injEq, and_true] at h
  obtain ⟨⟨hfirst, hproduct⟩, ⟨hback, -⟩, ⟨hsearch, -⟩, ⟨hclick, hnone⟩, hcart, -⟩ := h
  have hbought := (run_picked .standard "sess" "user" 0 10 _ [first, back, search, click] [] cart
    hevents).1 (.inl hcart)
  refine ⟨[first, back, search, click], first, cart, hevents, rfl, hcart, hbought.trans ?_⟩
  obtain ⟨product, hproduct⟩ := Option.isSome_iff_exists.mp hproduct
  have hnone : click.product? = none := by
    rwa [Option.isSome_eq_false_iff, Option.isNone_iff_eq_none] at hnone
  rw [hproduct]
  simp [lastPicked, Action.picks, hfirst, hback, hsearch, hclick, hproduct, hnone]

/-- The product in the cart is not that of the last click. -/
theorem misled_other :
    ∃ before click cart, misled.events = before ++ [click, cart] ∧
      click.action = .productClicked ∧ cart.action = .addToCart ∧
      cart.product? ≠ click.product? := by
  obtain ⟨first, back, search, click, cart, hevents, h⟩ := misled_events
  simp only [List.map_cons, List.map_nil, List.cons.injEq, Prod.mk.injEq, and_true] at h
  obtain ⟨-, -, -, ⟨hclick, hnone⟩, hcart, hproduct⟩ := h
  refine ⟨[first, back, search], click, cart, hevents, hclick, hcart, fun hsame => ?_⟩
  rw [← hsame, hproduct] at hnone
  cases hnone

end Visit

end ShopTraffic
