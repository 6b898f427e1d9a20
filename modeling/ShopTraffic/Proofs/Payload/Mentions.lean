import ShopTraffic.Proofs.Payload.Picked

/-!
What is said of products holds together. Pages have different names for the product that was picked,
and not every page says all of it; but whatever a payload says is said of one product of the
catalog, or says that there is none, and a session never remembers parts of two products.
-/

namespace ShopTraffic

/-- What a payload says of a product, under the names that pages have for it. -/
structure Mention where
  product : Option Json := none
  country : Option Json := none
  category : Option Json := none
  /-- The cart and the payment have a name of their own for the category. -/
  productCategory : Option Json := none

namespace Mention

/-- What is said of a product where members are looked up by name. -/
def within (get : String → Option Json) : Mention :=
  ⟨get "product_id", get "country", get "category", get "product_category"⟩

/-- The product is named, and all that is said is said of it. -/
structure IsOf (m : Mention) (p : Product) : Prop where
  product : m.product = some (.text p.id)
  country : ∀ told ∈ m.country, told = .text p.country
  category : ∀ told ∈ m.category, told = .text p.category
  productCategory : ∀ told ∈ m.productCategory, told = .text p.category

structure IsOfNone (m : Mention) : Prop where
  product : m.product = some (.text "")
  country : m.country = some (.text "")
  category : ∀ told ∈ m.category, told = .text ""
  productCategory : ∀ told ∈ m.productCategory, told = .text "" ∨ told = .text "unknown"

end Mention

namespace Picked

def ofProduct (p : Product) : Picked := ⟨p.id, p.category, p.country⟩

/-- Nothing is remembered, or one product of the catalog. -/
def IsWhole (k : Picked) : Prop := k = {} ∨ ∃ p ∈ Catalog.tickets, k = ofProduct p

end Picked

namespace Action

def fromCart (a : Action) (page : State) : Prop :=
  page = .addToCart ∧ (a = purchased ∨ a = back ∨ a = exit)

instance (a : Action) (page : State) : Decidable (a.fromCart page) :=
  inferInstanceAs (Decidable (_ ∧ _))

end Action

/-- What is said is said of one product or of none, and only where one goes on from the cart it is
said that the category is unknown, if there is no product. -/
structure Mention.IsSound (m : Mention) (a : Action) (page : State) : Prop where
  single : ∀ told ∈ m.product, m.IsOfNone ∨ ∃ p ∈ Catalog.tickets, m.IsOf p
  unknown : m.productCategory = some (.text "unknown") ↔ a.fromCart page ∧ m.IsOfNone

def Event.mention (e : Event) : Mention := .within e.extra.get?

namespace Payload

open Mention

variable {s : Session} {a : Action} {p : Part} {page : State} {old new : Picked} {m : Mention}

/-! ### What one payload says -/

/-- What is remembered after a payload, and what it says of a product, by its action, the page that
is left, and what was remembered before. -/
inductive Says (a : Action) (page : State) (old : Picked) : Picked → Mention → Prop
  | nothing : Says a page old old {}
  | picked (p : Product) (m : Mention) (hp : p ∈ Catalog.tickets) (hm : m.IsOf p) :
      Says a page old (.ofProduct p) m
  | shown (h : ¬a.fromCart page) :
      Says a page old old
        { product := some (.text old.product)
          country := some (.text old.country)
          category := some (.text old.category) }
  | paid (h : ¬a.fromCart page) :
      Says a page old old
        { product := some (.text old.product)
          country := some (.text old.country)
          productCategory := some (.text old.category) }
  | kept (h : a.fromCart page) :
      Says a page old old
        { product := some (.text old.product)
          country := some (.text old.country)
          productCategory := some (.text (if old.category = "" then "unknown" else old.category)) }

lemma told_of_some {o : Option Json} {v : Json} (h : o = some v) : ∀ told ∈ o, told = v := by
  intro told ht
  exact Option.some.inj (ht.symm.trans h)

lemma told_of_none {o : Option Json} {P : Json → Prop} (h : o = none) : ∀ told ∈ o, P told := by
  intro told ht
  exact absurd (ht.symm.trans h) nofun

lemma mem_tickets {p : Product} (h : p ∈ catalog.products) : p ∈ Catalog.tickets := by
  rwa [← Array.mem_toList_iff, catalog, Catalog.standard, (Catalog.ofList_indexed _).1] at h

/-- Where no category is remembered, the cart says that it is unknown. -/
lemma within_cart (s : Session) (stay : Json) (more : String × Json)
    (hmore : more.1 ∉ ["product_id", "country", "category", "product_category"]) :
    within (Fields.last? (cart s stay ++ [more])) =
      { product := some (.text s.picked.product)
        country := some (.text s.picked.country)
        productCategory :=
          some (.text (if s.picked.category = "" then "unknown" else s.picked.category)) } := by
  simp only [List.mem_cons, not_or, List.not_mem_nil] at hmore
  obtain ⟨h₁, h₂, h₃, h₄, -⟩ := hmore
  rw [cart]
  by_cases h : s.picked.category = "" <;>
    simp [within, Fields.last?, Fields.lookup_cons, pickedMembers, quantityMember, h, Ne.symm h₁,
      Ne.symm h₂, Ne.symm h₃, Ne.symm h₄]

lemma Makes.says (h : Makes s a p) :
    Says a s.previous s.picked p.session.picked (within (Fields.last? p.members)) := by
  cases h with
  | exposed p _ hp | found p _ hp | foundLater p _ _ hp =>
    exact .picked p _ (mem_tickets hp)
      ⟨rfl, told_of_some rfl, told_of_some rfl, told_of_none rfl⟩
  -- the list of a country or a category does not say that of the product once more
  | countryOpened _ p _ hp =>
    exact .picked p _ (mem_tickets hp)
      ⟨rfl, told_of_none rfl, told_of_some rfl, told_of_none rfl⟩
  | categoryOpened _ p _ hp =>
    exact .picked p _ (mem_tickets hp)
      ⟨rfl, told_of_some rfl, told_of_none rfl, told_of_none rfl⟩
  | addedToCart => exact .shown (by simp [Action.fromCart])
  | productBack _ h | productExited h => exact .shown (by simp [Action.fromCart, h])
  | purchased _ _ _ h | paymentBack _ _ h | paymentExited _ _ _ h =>
    exact .paid (by simp [Action.fromCart, h])
  | cartCheckedOut stay h | cartBack stay h | cartExited stay h =>
    rw [within_cart s stay _ (by decide)]
    exact .kept ⟨h, by decide⟩
  | _ => exact .nothing

/-- What is said names what is remembered then. -/
lemma Says.names (h : Says a page old new m) : ∀ told ∈ m.product, told = .text new.product := by
  cases h with
  | nothing => exact told_of_none rfl
  | picked p m hp hm => exact told_of_some hm.product
  | shown | paid | kept => exact told_of_some rfl

lemma Says.isWhole (h : Says a page old new m) (hold : old.IsWhole) : new.IsWhole := by
  cases h with
  | picked p m hp => exact .inr ⟨p, hp, rfl⟩
  | nothing | shown | paid | kept => exact hold

lemma tickets_told :
    ∀ p ∈ Catalog.tickets, p.id ≠ "" ∧ p.category ≠ "" ∧ p.category ≠ "unknown" := by
  decide +kernel

/-- A product of the catalog is neither none nor of an unknown category. -/
lemma isSound_of_product {p : Product} (hp : p ∈ Catalog.tickets) (hm : m.IsOf p) :
    m.IsSound a page := by
  obtain ⟨hid, -, hcategory⟩ := tickets_told p hp
  refine ⟨fun _ _ => .inr ⟨p, hp, hm⟩, fun hu => ?_, fun ⟨_, hnone⟩ => ?_⟩
  · exact absurd (Json.text.inj (hm.productCategory _ hu)).symm hcategory
  · exact absurd (Json.text.inj (Option.some.inj (hm.product.symm.trans hnone.product))) hid

lemma isSound_of_none (hm : m.IsOfNone)
    (hu : m.productCategory = some (.text "unknown") ↔ a.fromCart page) : m.IsSound a page :=
  ⟨fun _ _ => .inl hm, hu.trans (iff_self_and.mpr fun _ => hm)⟩

/-- **Whatever is said is said of one product or of none**, if what was remembered before was
whole. -/
lemma Says.isSound (h : Says a page old new m) (hold : old.IsWhole) : m.IsSound a page := by
  cases h with
  | nothing => exact ⟨nofun, nofun, fun ⟨_, hnone⟩ => absurd hnone.product nofun⟩
  | picked p m hp hm => exact isSound_of_product hp hm
  | shown h =>
    rcases hold with rfl | ⟨p, hp, rfl⟩
    · exact isSound_of_none ⟨rfl, rfl, told_of_some rfl, told_of_none rfl⟩
        (iff_of_false nofun h)
    · exact isSound_of_product hp ⟨rfl, told_of_some rfl, told_of_some rfl, told_of_none rfl⟩
  | paid h =>
    rcases hold with rfl | ⟨p, hp, rfl⟩
    · exact isSound_of_none
        ⟨rfl, rfl, told_of_none rfl, fun told ht => .inl (told_of_some rfl told ht)⟩
        (iff_of_false (by simp) h)
    · exact isSound_of_product hp ⟨rfl, told_of_some rfl, told_of_none rfl, told_of_some rfl⟩
  | kept h =>
    rcases hold with rfl | ⟨p, hp, rfl⟩
    · exact isSound_of_none
        ⟨rfl, rfl, told_of_none rfl, fun told ht => .inr (told_of_some rfl told ht)⟩
        (iff_of_true rfl h)
    · -- a product has a category, so the cart names it as it is
      have hcategory : p.category ≠ "" := (tickets_told p hp).2.1
      refine isSound_of_product hp ⟨rfl, told_of_some rfl, told_of_none rfl, ?_⟩
      exact told_of_some (congrArg _ (congrArg _ (if_neg hcategory)))

lemma Tells.says {g : Generated} (h : Tells s a g) {e : Event} (he : e.extra = []) :
    Says a s.previous s.picked g.session.picked (e.withExtra g.fields).mention := by
  obtain ⟨p, hp, hsession, hget⟩ := h.get? he
  rw [Event.mention, within, hget _ (by decide) rfl, hget _ (by decide) rfl,
    hget _ (by decide) rfl, hget _ (by decide) rfl, hsession]
  exact hp.says

end Payload

/-! ### What a visit says -/

namespace Visit

/-- What is remembered is whole, every event says sound things, and what the last event names is
what is remembered. -/
structure Whole (v : Visit) : Prop where
  picked : v.session.picked.IsWhole
  sound : ∀ e ∈ v.events, e.mention.IsSound e.action e.previous
  names : ∀ e ∈ v.events.getLast?, ∀ told ∈ e.product?, told = .text v.session.picked.product

lemma Effect.whole {T : Table} {v v' : Visit} (he : Effect T v v') (h : Whole v) : Whole v' := by
  cases he with
  | renewed | stayed => exact ⟨h.picked, h.sound, h.names⟩
  | moved now t s e g ht hg =>
    have hpicked : s.picked = v.session.picked := by
      rcases ht.session with ⟨rfl, -⟩ | ⟨-, k, -, rfl⟩ <;> rfl
    have hsays := hg.says ht.extra
    have hold : s.picked.IsWhole := hpicked ▸ h.picked
    obtain ⟨-, -, -, hprevious, -⟩ := ht.told
    constructor
    case picked => exact hsays.isWhole hold
    case sound =>
      intro x hx
      rcases List.mem_append.mp hx with hx | hx
      · exact h.sound x hx
      · obtain rfl := List.mem_singleton.mp hx
        have hsound := hsays.isSound hold
        rwa [← hprevious] at hsound
    case names =>
      intro x hx
      rw [List.getLast?_concat] at hx
      obtain rfl := Option.some.inj hx
      exact hsays.names

lemma start_whole (id user : String) (now ttl : Time) : Whole (start id user now ttl) where
  picked := .inl rfl
  sound _ he := absurd he List.not_mem_nil
  names _ he := absurd he (Option.not_mem_none _)

lemma Reached.whole {T : Table} {v : Visit} (h : Reached T v) : Whole v :=
  h.induct (P := Whole) start_whole fun _ _ h he => he.whole h

/-- **Remembered products hold together.** At any time a visit remembers nothing, or the id, the
category and the country of one product of the catalog. Each event that has a product either names
none, and no country, or a product of the catalog, and then the country and the category that it
has, under whatever name, are those of this product. The category is said to be unknown exactly
where one goes on from a cart without a product. What the last event names is what is remembered. -/
theorem run_whole (T : Table) (id user : String) (now ttl : Time) (turns : List Turn) :
    let v := (start id user now ttl).run T turns
    (v.session.picked = {} ∨
      ∃ p ∈ Catalog.tickets, v.session.picked = ⟨p.id, p.category, p.country⟩) ∧
    (∀ e ∈ v.events,
      (∀ told ∈ e.product?, e.mention.IsOfNone ∨ ∃ p ∈ Catalog.tickets, e.mention.IsOf p) ∧
      (e.extra.get? "product_category" = some (.text "unknown") ↔
        (e.previous = .addToCart ∧
          (e.action = .purchased ∨ e.action = .back ∨ e.action = .exit)) ∧
        e.mention.IsOfNone)) ∧
    ∀ e ∈ v.events.getLast?, ∀ told ∈ e.product?, told = .text v.session.picked.product := by
  intro v
  obtain ⟨hpicked, hsound, hnames⟩ : Whole v :=
    Reached.whole (T := T) ⟨id, user, now, ttl, turns, rfl⟩
  exact ⟨hpicked, fun e he => ⟨(hsound e he).single, (hsound e he).unknown⟩, hnames⟩

/-- A visitor searches for something that the shop does not have, clicks there, puts nothing into
the cart and pays for it. -/
def emptyHanded : Visit := (start "sess" "user" 0 10).run .standard (seeded [182, 1, 5, 1])

/-- The cart is checked out without a product, and the category is said to be unknown. -/
theorem run_whole_emptyHanded :
    ∃ (before : List Event) (paid : Event), emptyHanded.events = before ++ [paid] ∧
      paid.action = .purchased ∧ paid.previous = .addToCart ∧ paid.mention.IsOfNone ∧
      paid.extra.get? "product_category" = some (.text "unknown") ∧
      emptyHanded.session.picked = {} := by
  have h : emptyHanded.events.map (fun e => (e.action, e.previous, e.product?.bind Json.tag?)) =
      [(.searchSubmitted, .browsing, none), (.productClicked, .search, none),
        (.addToCart, .click, some "")] ++ [(.purchased, .addToCart, some "")] := by
    decide +kernel
  obtain ⟨before, last, hevents, -, hlast⟩ := List.map_eq_append_iff.mp h
  obtain ⟨paid, rfl, hpaid⟩ := List.map_eq_singleton_iff.mp hlast
  simp only [Prod.mk.injEq] at hpaid
  obtain ⟨haction, hprevious, htag⟩ := hpaid
  obtain ⟨told, htold, htext⟩ := Option.bind_eq_some_iff.mp htag
  obtain ⟨hpicked, hsays, hnames⟩ :=
    run_whole .standard "sess" "user" 0 10 (seeded [182, 1, 5, 1])
  have hmem : paid ∈ emptyHanded.events := by simp [hevents]
  obtain ⟨hsingle, hunknown⟩ := hsays paid hmem
  have hnone : paid.mention.IsOfNone := by
    refine (hsingle told htold).resolve_right fun ⟨p, hp, hof⟩ => ?_
    obtain rfl : told = .text p.id := Option.some.inj (htold.symm.trans hof.product)
    exact (Payload.tickets_told p hp).1 (Option.some.inj htext)
  have hempty : emptyHanded.session.picked = {} := by
    rw [emptyHanded]
    refine hpicked.resolve_right fun ⟨p, hp, hwhole⟩ => (Payload.tickets_told p hp).1 ?_
    have hlast : paid ∈ emptyHanded.events.getLast? := by simp [hevents]
    have hsame := hnames paid hlast _ hnone.product
    rw [hwhole] at hsame
    exact (Json.text.inj hsame).symm
  exact ⟨before, paid, hevents, haction, hprevious, hnone,
    hunknown.mpr ⟨⟨hprevious, .inl haction⟩, hnone⟩, hempty⟩

end Visit

end ShopTraffic
