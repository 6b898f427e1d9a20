import ShopTraffic.Proofs.Behaviour.Histories
import ShopTraffic.Proofs.Behaviour.Places
import ShopTraffic.Proofs.Payload.Picked

/-!
How many items are bought. A quantity is drawn when something is put into the cart, and when it is
paid right on the product page. Nothing else changes it: the cart can be left, come back to and
checked out, and it is still the quantity that was put into it last. Whoever pays leaves the shop
next, with what was paid.
-/

namespace ShopTraffic

open ShopTraffic.Random

namespace Action

/-- An action that begins on the given page decides how many items it is about. -/
def decidesQuantity (a : Action) (page : State) : Prop :=
  a = addToCart ∨ a = purchased ∧ page = .click

/-- An event with the action that begins on the given page says how many items it is about. -/
def tellsQuantity (a : Action) (page : State) : Prop :=
  a.takes ∨ (a = back ∨ a = exit) ∧ (page = .addToCart ∨ page = .purchase)

instance (a : Action) (page : State) : Decidable (a.decidesQuantity page) :=
  inferInstanceAs (Decidable (_ ∨ _))

instance (a : Action) : Decidable a.takes := inferInstanceAs (Decidable (_ ∨ _))

instance (a : Action) (page : State) : Decidable (a.tellsQuantity page) :=
  inferInstanceAs (Decidable (_ ∨ _))

end Action

namespace Event

def quantity? (e : Event) : Option Json := e.extra.get? "quantity"

def ChecksOut (e : Event) : Prop :=
  e.action = .purchased ∧ e.extra.get? "purchase_source" = some (.text "cart_checkout")

/-- With the event the visitor goes away from the page, back or out of the shop. -/
def Leaves (e : Event) (page : State) : Prop :=
  (e.action = .back ∨ e.action = .exit) ∧ e.previous = page

end Event

namespace Payload

variable {s : Session} {a : Action} {p : Part}

/-- What the payload of an action that begins on a page has to do with the quantity that is
remembered before and after it. -/
structure Counts (a : Action) (page : State) (old new : UInt32) (quantity? source? : Option Json) :
    Prop where
  told : quantity? = if a.tellsQuantity page then some (.ofNat new.toNat) else none
  drawn : a.decidesQuantity page → Drawable new
  keeps : ¬a.decidesQuantity page → new = old
  source : source? = some (.text "cart_checkout") → page = .addToCart

lemma last?_cart (s : Session) (stay : Json) {more : List (String × Json)}
    (hmore : Fields.last? more "quantity" = none) :
    Fields.last? (cart s stay ++ more) "quantity" = some (.ofNat s.quantity.toNat) := by
  rw [Fields.last?_append, hmore, Option.none_or, cart, Fields.last?_append]
  rfl

lemma last?_payment (s : Session) (method : String) (stay : Json) {more : List (String × Json)}
    (hmore : Fields.last? more "quantity" = none) :
    Fields.last? (payment s method stay ++ more) "quantity" = some (.ofNat s.quantity.toNat) := by
  rw [Fields.last?_append, hmore, Option.none_or]
  rfl

/-- An action that neither puts anything in the cart nor pays leaves the quantity as it is. -/
lemma Counts.kept {page : State} {n : UInt32} {quantity? source? : Option Json}
    (hput : a ≠ .addToCart) (hpaid : a ≠ .purchased)
    (told : quantity? = if a.tellsQuantity page then some (.ofNat n.toNat) else none)
    (hsource : source? = none ∨ page = .addToCart) : Counts a page n n quantity? source? where
  told := told
  drawn hd := by
    rcases hd with h | ⟨h, -⟩
    · exact absurd h hput
    · exact absurd h hpaid
  keeps _ := rfl
  source h := hsource.resolve_left (by simp [h])

lemma Makes.counts (h : Makes s a p) :
    Counts a s.previous s.quantity p.session.quantity (Fields.last? p.members "quantity")
      (Fields.last? p.members "purchase_source") := by
  cases h with
  | addedToCart quantity hq =>
    exact ⟨rfl, fun _ => hq, fun h => absurd (.inl rfl) h,
      fun h => absurd h.symm (Option.some_ne_none _)⟩
  | cartCheckedOut stay h =>
    refine ⟨?_, fun hd => ?_, fun _ => rfl, fun _ => h⟩
    · rw [h]
      exact last?_cart s stay rfl
    · rw [h] at hd
      exact absurd hd (by decide)
  | purchased quantity method stay h hq =>
    refine ⟨rfl, fun hd => ?_, fun hd => ?_, fun h => absurd h.symm (Option.some_ne_none _)⟩
    · rcases hq with ⟨-, hq⟩ | ⟨hne, -⟩
      · exact hq
      · exact absurd hd (by simp [Action.decidesQuantity, hne])
    · rcases hq with ⟨hclick, -⟩ | ⟨-, hq⟩
      · exact absurd (.inr ⟨rfl, hclick⟩) hd
      · exact hq
  | homeLeft a ha h =>
    have hpage : s.previous ≠ .addToCart ∧ s.previous ≠ .purchase := by
      constructor <;> exact fun hx => absurd (hx ▸ h) (by decide)
    rcases ha with rfl | rfl <;>
      exact .kept (by decide) (by decide)
        (by simp [Action.tellsQuantity, Action.takes, hpage, Fields.last?, Fields.lookup_cons])
        (.inl rfl)
  | cartBack stay h | cartExited stay h =>
    refine .kept (by decide) (by decide) ?_ (.inr h)
    rw [h]
    exact last?_cart s stay rfl
  | paymentBack method stay h =>
    refine .kept (by decide) (by decide) ?_ (.inl rfl)
    rw [h]
    rfl
  | paymentExited method stay stay' h =>
    refine .kept (by decide) (by decide) ?_ (.inl rfl)
    rw [h]
    exact last?_payment s method stay rfl
  | eventPageBack _ h | eventPageExited _ h | resultsBack _ h | resultsExited _ h
  | laterPageBack _ _ h | laterPageExited _ _ h | productBack _ h | productExited h =>
    refine .kept (by decide) (by decide) ?_ (.inl rfl)
    rw [h]
    rfl
  | _ => exact .kept (by decide) (by decide) rfl (.inl rfl)

/-- Whoever pays at the cart checks it out. -/
lemma Makes.checksOut (h : Makes s .purchased p) (hpage : s.previous = .addToCart) :
    Fields.last? p.members "purchase_source" = some (.text "cart_checkout") := by
  cases h with
  | cartCheckedOut stay => rw [Fields.last?_append]; rfl
  | purchased quantity method stay h => exact absurd hpage h
  | homeLeft _ h => rcases h with h | h <;> cases h

/-- Whoever has paid leaves with the product that was paid. -/
lemma Makes.receipt (h : Makes s .exit p) (hpage : s.previous = .purchase) :
    Fields.last? p.members "product_id" = some (.text s.picked.product) := by
  cases h with
  | paymentExited method stay stay' =>
    rw [payment, List.append_assoc]
    exact last?_picked s "product_category" (by decide) rfl
  | homeLeft _ _ h => exact absurd (hpage ▸ h) (by decide)
  | eventPageExited _ h | resultsExited _ h | laterPageExited _ _ h | productExited h
  | cartExited _ h =>
    rw [hpage] at h
    cases h

lemma Tells.counts {g : Generated} (h : Tells s a g) {e : Event} (he : e.extra = []) :
    Counts a s.previous s.quantity g.session.quantity (e.withExtra g.fields).quantity?
      ((e.withExtra g.fields).extra.get? "purchase_source") := by
  obtain ⟨p, hp, hsession, hget⟩ := h.get? he
  rw [Event.quantity?, hget _ (by decide) rfl, hget _ (by decide) rfl, hsession]
  exact hp.counts

lemma Tells.receipt {g : Generated} (h : Tells s .exit g) {e : Event} (he : e.extra = [])
    (hpage : s.previous = .purchase) :
    (e.withExtra g.fields).product? = some (.text s.picked.product) := by
  obtain ⟨p, hp, -, hget⟩ := h.get? he
  rw [Event.product?, hget _ (by decide) rfl]
  exact hp.receipt hpage

end Payload

/-! ### From the cart to the payment -/

def Place.AtCart (a : Place) : Prop := a.state = .addToCart ∨ a.previous = .addToCart

instance (a : Place) : Decidable a.AtCart := inferInstanceAs (Decidable (_ ∨ _))

namespace Table

/-- One comes to the cart by putting something into it, or one was there before; then the quantity
stays as it is. -/
lemma comes_to_cart : ∀ a ∈ places, ∀ t ∈ standard.transitions a.state,
    (⟨t.next a.previous, a.state⟩ : Place).AtCart →
      t.action = .addToCart ∨ a.AtCart ∧ ¬t.action.decidesQuantity a.state := by
  decide +kernel

/-- Only paying leads to the payment, and only the exit leads on from there. -/
lemma comes_to_payment : ∀ a ∈ places, ∀ t ∈ standard.transitions a.state,
    (t.action = .purchased ↔ t.next a.previous = .purchase) ∧
      (a.state = .purchase → t.next a.previous = .exit) := by
  decide +kernel

/-- A quantity that is not decided by the event itself was decided before. -/
lemma tells_quantity : ∀ a ∈ places, ∀ t ∈ standard.transitions a.state,
    t.action.tellsQuantity a.state → t.action.decidesQuantity a.state ∨
      a.state = .addToCart ∨ a.state = .purchase := by
  decide +kernel

lemma inside_of_mem {s : State} {t : Transition} (h : t ∈ standard.transitions s) :
    s ≠ .exit := by
  rintro rfl
  exact absurd h List.not_mem_nil

end Table

namespace Visit

/-- What an event says of quantities agrees with the events before it. -/
structure Agrees (before : List Event) (e : Event) : Prop where
  range : ∀ v, e.quantity? = some v → ∃ n, 1 ≤ n ∧ n ≤ 5 ∧ v = .ofNat n
  cart : e.ChecksOut ∨ e.Leaves .addToCart → ∃ added since quantity,
    LastOf .addToCart before added since ∧ added.quantity? = some quantity ∧
      e.quantity? = some quantity
  payment : e.action = .exit → e.previous = .purchase → ∃ earlier paid quantity product,
    before = earlier ++ [paid] ∧ paid.action = .purchased ∧
      (∀ x ∈ earlier, x.action ≠ .purchased) ∧
      paid.quantity? = some quantity ∧ e.quantity? = some quantity ∧
      paid.product? = some product ∧ e.product? = some product

/-- What is remembered agrees with what was put into the cart and paid. -/
structure Counted (v : Visit) : Prop where
  drawn : v.place.AtCart ∨ v.place.state = .purchase → Payload.Drawable v.session.quantity
  cart : v.place.AtCart → ∃ added since, LastOf .addToCart v.events added since ∧
    added.quantity? = some (.ofNat v.session.quantity.toNat)
  unpaid : v.place.state ≠ .purchase → v.place.state ≠ .exit →
    ∀ x ∈ v.events, x.action ≠ .purchased
  paid : v.place.state = .purchase → ∃ earlier paid, v.events = earlier ++ [paid] ∧
    paid.action = .purchased ∧ (∀ x ∈ earlier, x.action ≠ .purchased) ∧
    paid.quantity? = some (.ofNat v.session.quantity.toNat) ∧
    paid.product? = some (.text v.session.picked.product)
  agree : Each Agrees v.events

variable {v : Visit} {t : Transition} {s : Session} {e e' : Event} {g : Payload.Generated}
  {new : UInt32}

structure CountsOn (v : Visit) (t : Transition) (e : Event) (new : UInt32) : Prop where
  placed : v.place ∈ Table.places
  mem : t ∈ Table.standard.transitions v.place.state
  action : e.action = t.action
  previous : e.previous = v.place.state
  counts : Payload.Counts t.action v.place.state v.session.quantity new e.quantity?
    (e.extra.get? "purchase_source")

lemma MovesOn.countsOn (hm : v.MovesOn t s e) (hg : Payload.Tells s e.action g)
    (he : e.extra = []) : v.CountsOn t (e.withExtra g.fields) g.session.quantity where
  placed := hm.placed
  mem := hm.mem
  action := hm.action
  previous := hm.told.2.trans hm.previous
  counts := by
    rw [← hm.action, ← hm.previous, ← hm.quantity]
    exact hg.counts he

lemma CountsOn.quantity_eq (hc : v.CountsOn t e new) (h : t.action.tellsQuantity v.place.state) :
    e.quantity? = some (.ofNat new.toNat) :=
  hc.counts.told.trans (if_pos h)

/-- What was drawn before is kept on the way to the cart and to the payment. -/
lemma Counted.drawn_after (h : Counted v) (hc : v.CountsOn t e new)
    (hto : t.action.tellsQuantity v.place.state ∨
      Place.AtCart ⟨t.next v.place.previous, v.place.state⟩) : Payload.Drawable new := by
  by_cases hd : t.action.decidesQuantity v.place.state
  · exact hc.counts.drawn hd
  · rw [hc.counts.keeps hd]
    refine h.drawn ?_
    rcases hto with hto | hto
    · rcases Table.tells_quantity _ hc.placed t hc.mem hto with hd' | hcart | hpaid
      · exact absurd hd' hd
      · exact .inl (.inl hcart)
      · exact .inr hpaid
    · rcases Table.comes_to_cart _ hc.placed t hc.mem hto with hadd | ⟨hcart, -⟩
      · exact absurd (.inl hadd) hd
      · exact .inl hcart

/-- At the cart the quantity is the one that something was put into it with last. -/
lemma Counted.cart_after (h : Counted v) (hc : v.CountsOn t e new)
    (hto : Place.AtCart ⟨t.next v.place.previous, v.place.state⟩) :
    ∃ added since, LastOf .addToCart (v.events ++ [e]) added since ∧
      added.quantity? = some (.ofNat new.toNat) := by
  by_cases hadd : t.action = .addToCart
  · exact ⟨e, [], lastOf_concat _ (hc.action.trans hadd),
      hc.quantity_eq (.inl (.inl hadd))⟩
  · rcases Table.comes_to_cart _ hc.placed t hc.mem hto with hadd' | ⟨hcart, hkeeps⟩
    · exact absurd hadd' hadd
    · obtain ⟨added, since, hlast, hquantity⟩ := h.cart hcart
      refine ⟨added, since ++ [e], hlast.concat (hc.action ▸ hadd), ?_⟩
      rw [hc.counts.keeps hkeeps, hquantity]

/-- Whoever leaves the cart or checks it out says how much was put into it last. -/
lemma Counted.cart_told (h : Counted v) (hc : v.CountsOn t e new)
    (he : e.ChecksOut ∨ e.Leaves .addToCart) : ∃ added since quantity,
      LastOf .addToCart v.events added since ∧ added.quantity? = some quantity ∧
        e.quantity? = some quantity := by
  have hpage : v.place.state = .addToCart := by
    rcases he with ⟨-, hsource⟩ | ⟨-, hpage⟩
    · exact hc.counts.source hsource
    · exact hc.previous.symm.trans hpage
  have haction : t.action = .purchased ∨ t.action = .back ∨ t.action = .exit := by
    rw [← hc.action]
    exact he.imp And.left And.left
  have htells : t.action.tellsQuantity v.place.state := by
    rcases haction with hpaid | hleft
    · exact .inl (.inr hpaid)
    · exact .inr ⟨hleft, .inl hpage⟩
  have hkeeps : ¬t.action.decidesQuantity v.place.state := by
    rw [hpage]
    rcases haction with h | h | h <;> rw [h] <;> decide
  obtain ⟨added, since, hlast, hquantity⟩ := h.cart (.inl hpage)
  refine ⟨added, since, _, hlast, hquantity, ?_⟩
  rw [hc.quantity_eq htells, hc.counts.keeps hkeeps]

/-- Nobody has paid who is neither at the payment nor out of the shop. -/
lemma Counted.unpaid_after (h : Counted v) (hc : v.CountsOn t e new)
    (hpay : t.next v.place.previous ≠ .purchase) (hexit : t.next v.place.previous ≠ .exit) :
    ∀ x ∈ v.events ++ [e], x.action ≠ .purchased := by
  obtain ⟨hpaid, hleave⟩ := Table.comes_to_payment _ hc.placed t hc.mem
  intro x hx
  rcases List.mem_append.mp hx with hx | hx
  · exact h.unpaid (fun hp => hexit (hleave hp)) (Table.inside_of_mem hc.mem) x hx
  · rw [List.mem_singleton.mp hx, hc.action]
    exact fun hp => hpay (hpaid.mp hp)

/-- Whoever leaves after the payment has paid just before, and tells what. -/
lemma Counted.payment_told (h : Counted v) (hc : v.CountsOn t e new)
    (hproduct : t.action = .exit → v.place.state = .purchase →
      e.product? = some (.text v.session.picked.product))
    (hleft : e.action = .exit) (hpage : e.previous = .purchase) :
    ∃ earlier paid quantity product,
      v.events = earlier ++ [paid] ∧ paid.action = .purchased ∧
        (∀ x ∈ earlier, x.action ≠ .purchased) ∧
        paid.quantity? = some quantity ∧ e.quantity? = some quantity ∧
        paid.product? = some product ∧ e.product? = some product := by
  rw [hc.action] at hleft
  rw [hc.previous] at hpage
  obtain ⟨earlier, paid, hevents, hpaid, hothers, hquantity, hpicked⟩ := h.paid hpage
  have hkeeps : ¬t.action.decidesQuantity v.place.state := by
    rw [hleft, hpage]
    decide
  refine ⟨earlier, paid, _, _, hevents, hpaid, hothers, hquantity, ?_, hpicked,
    hproduct hleft hpage⟩
  rw [hc.quantity_eq (.inr ⟨.inr hleft, .inr hpage⟩), hc.counts.keeps hkeeps]

lemma Counted.range_told (h : Counted v) (hc : v.CountsOn t e new) {told : Json}
    (he : e.quantity? = some told) : ∃ n, 1 ≤ n ∧ n ≤ 5 ∧ told = .ofNat n := by
  have htold := hc.counts.told
  rw [he] at htold
  split at htold
  · next htells =>
    obtain ⟨hlow, hhigh⟩ := h.drawn_after hc (.inl htells)
    exact ⟨new.toNat, hlow, hhigh, Option.some.inj htold⟩
  · cases htold

/-- Paying is remembered with what was paid. -/
lemma Counted.paid_after (h : Counted v) (hc : v.CountsOn t e new) {picked : Picked}
    (hproduct : t.action = .purchased → e.product? = some (.text picked.product))
    (hto : t.next v.place.previous = .purchase) :
    ∃ earlier paid, v.events ++ [e] = earlier ++ [paid] ∧ paid.action = .purchased ∧
      (∀ x ∈ earlier, x.action ≠ .purchased) ∧ paid.quantity? = some (.ofNat new.toNat) ∧
      paid.product? = some (.text picked.product) := by
  obtain ⟨hpaid, hleave⟩ := Table.comes_to_payment _ hc.placed t hc.mem
  have haction : t.action = .purchased := hpaid.mpr hto
  have hstay : v.place.state ≠ .purchase := by
    intro hp
    rw [hleave hp] at hto
    cases hto
  exact ⟨v.events, e, rfl, hc.action.trans haction,
    h.unpaid hstay (Table.inside_of_mem hc.mem), hc.quantity_eq (.inl (.inr haction)),
    hproduct haction⟩

lemma start_counted (id user : String) (now ttl : Time) : Counted (start id user now ttl) where
  drawn := nofun
  cart := nofun
  unpaid _ _ := nofun
  paid := nofun
  agree := each_nil Agrees

lemma Reached.counted (h : Reached .standard v) : Counted v := by
  refine h.induct_moves (P := Counted) start_counted
    (fun v now ttl h => ⟨h.drawn, h.cart, h.unpaid, h.paid, h.agree⟩)
    fun v t s e g h hm hg he => ?_
  have hc := hm.countsOn hg he
  have hplace := hm.place_after hg.keeps (v.events ++ [e.withExtra g.fields])
  constructor
  case drawn =>
    rw [hplace]
    refine fun hto => h.drawn_after hc (hto.elim .inr fun hto => .inl (.inl (.inr ?_)))
    exact (Table.comes_to_payment _ hc.placed t hc.mem).1.mpr hto
  case cart =>
    rw [hplace]
    exact h.cart_after hc
  case unpaid =>
    rw [hplace]
    exact h.unpaid_after hc
  case paid =>
    rw [hplace]
    refine h.paid_after hc fun haction => ?_
    obtain ⟨-, hkeeps, htakes⟩ := hg.handles he
    rw [hm.action, haction] at hkeeps htakes
    rw [htakes (.inr rfl), hkeeps (by decide)]
  case agree =>
    refine h.agree.concat ⟨fun told => h.range_told hc, h.cart_told hc,
      h.payment_told hc fun haction hpage => ?_⟩
    rw [hm.action, haction] at hg
    rw [hg.receipt he (hm.previous.trans hpage), hm.picked]

/-- **What is paid is what was put into the cart**, and who leaves tells what was paid. Every
quantity lies between one and five. Whoever leaves the cart, checks it out or goes out of the shop
from there names the quantity with which something was put into it last, however often the cart was
left and come back to. Whoever leaves after paying has paid just before that and never else, and
names the quantity and the product that were paid. -/
theorem run_quantities (id user : String) (now ttl : Time) (turns : List Turn)
    (before after : List Event) (e : Event)
    (h : ((start id user now ttl).run .standard turns).events = before ++ e :: after) :
    (∀ told, e.quantity? = some told → ∃ n, 1 ≤ n ∧ n ≤ 5 ∧ told = .ofNat n) ∧
    (e.ChecksOut ∨ e.Leaves .addToCart → ∃ added since quantity,
      LastOf .addToCart before added since ∧ added.quantity? = some quantity ∧
        e.quantity? = some quantity) ∧
    (e.action = .exit ∧ e.previous = .purchase → after = [] ∧ ∃ earlier paid quantity product,
      before = earlier ++ [paid] ∧ paid.action = .purchased ∧
        (∀ x ∈ earlier, x.action ≠ .purchased) ∧
        paid.quantity? = some quantity ∧ e.quantity? = some quantity ∧
        paid.product? = some product ∧ e.product? = some product) := by
  have hreached : Reached .standard ((start id user now ttl).run .standard turns) :=
    ⟨id, user, now, ttl, turns, rfl⟩
  obtain ⟨hrange, hcart, hpayment⟩ := hreached.counted.agree before e after h
  have hwalk := (hreached.walking Table.standard_leadsInside).walk
  exact ⟨hrange, hcart, fun ⟨hleft, hpage⟩ =>
    ⟨(hwalk.exits Table.standard_exitsOnly).1 before e after h hleft, hpayment hleft hpage⟩⟩

/-- A visitor puts a product into the cart, goes back, comes back to the cart, pays and leaves. -/
def undecided : Visit :=
  (start "sess" "user" 0 10).run .standard (seeded [5, 5, 2, 2, 1, 0])

lemma undecided_events :
    ∃ click added away again paid left,
      undecided.events = [click, added, away, again, paid, left] ∧
      [click, added, away, again, paid, left].map (fun e => (e.action, e.previous)) =
        [(.productClicked, .browsing), (.addToCart, .click), (.back, .addToCart),
          (.back, .click), (.purchased, .addToCart), (.exit, .purchase)] := by
  have h : undecided.events.map (fun e => (e.action, e.previous)) =
      [(.productClicked, .browsing), (.addToCart, .click), (.back, .addToCart),
        (.back, .click), (.purchased, .addToCart), (.exit, .purchase)] := by
    decide +kernel
  obtain ⟨click, _, hevents, -, h₁⟩ := List.map_eq_cons_iff.mp h
  obtain ⟨added, _, rfl, -, h₂⟩ := List.map_eq_cons_iff.mp h₁
  obtain ⟨away, _, rfl, -, h₃⟩ := List.map_eq_cons_iff.mp h₂
  obtain ⟨again, _, rfl, -, h₄⟩ := List.map_eq_cons_iff.mp h₃
  obtain ⟨paid, _, rfl, -, h₅⟩ := List.map_eq_cons_iff.mp h₄
  obtain ⟨left, _, rfl, -, h₆⟩ := List.map_eq_cons_iff.mp h₅
  obtain rfl := List.map_eq_nil_iff.mp h₆
  exact ⟨click, added, away, again, paid, left, hevents, hevents ▸ h⟩

/-- It is the product that was put into the cart at first, and as often, that the visitor leaves
with. -/
theorem run_quantities_undecided :
    ∃ before added paid left, undecided.events = before ++ [paid, left] ∧ added ∈ before ∧
      added.action = .addToCart ∧ paid.ChecksOut ∧ left.action = .exit ∧
      paid.quantity? = added.quantity? ∧ left.quantity? = added.quantity? ∧
      left.product? = paid.product? := by
  obtain ⟨click, added, away, again, paid, left, hevents, h⟩ := undecided_events
  have hreached : Reached .standard undecided := ⟨_, _, _, _, _, rfl⟩
  simp only [List.map_cons, List.map_nil, List.cons.injEq, Prod.mk.injEq, and_true] at h
  obtain ⟨⟨hclick, -⟩, ⟨hadded, -⟩, ⟨haway, -⟩, ⟨hagain, -⟩, ⟨hpaid, hcart⟩, hleft, hpayment⟩ := h
  have hout : paid.ChecksOut := by
    obtain ⟨s, p, hp, -, hprevious, hget⟩ := hreached.told paid (by simp [hevents])
    rw [hpaid] at hp
    exact ⟨hpaid, (hget _ (by decide) rfl).trans (hp.checksOut (hprevious.trans hcart))⟩
  obtain ⟨last, since, quantity, hlast, hquantity, htold⟩ :=
    (run_quantities "sess" "user" 0 10 _ [click, added, away, again] [left] paid hevents).2.1
      (.inl hout)
  have hadd : LastOf .addToCart [click, added, away, again] added [away, again] :=
    ⟨⟨[click], rfl⟩, hadded, by simp [haway, hagain]⟩
  rw [(hlast.unique hadd).1] at hquantity
  obtain ⟨-, earlier, payer, quantity', product, hlastPaid, -, -, hpaidFor, hleftWith, hproduct,
      hcarried⟩ :=
    (run_quantities "sess" "user" 0 10 _ [click, added, away, again, paid] [] left hevents).2.2
      ⟨hleft, hpayment⟩
  obtain rfl : paid = payer := by
    have := congrArg List.getLast? hlastPaid
    simpa using this
  exact ⟨[click, added, away, again], added, paid, left, hevents, by simp, hadded, hout, hleft,
    htold.trans hquantity.symm, hleftWith.trans (hpaidFor.symm.trans (htold.trans hquantity.symm)),
    hcarried.trans hproduct.symm⟩

end Visit

end ShopTraffic
