import ShopTraffic.Payload.Generate
import ShopTraffic.Proofs.Catalog.Search
import ShopTraffic.Proofs.Json.Fields
import ShopTraffic.Proofs.Random.Uniform

/-!
What a payload can be made of. For each action, and each place that the visitor came from, it is
written down what is remembered and which members the payload has. Most of what is drawn is left
open, but products are those of the catalog, and a quantity that is drawn lies between one and five.
Only a keyword can lead to no product: something is found in every list of the ticket shop.
-/

namespace ShopTraffic.Payload

open ShopTraffic.Random

def Drawable (q : UInt32) : Prop := 1 ≤ q.toNat ∧ q.toNat ≤ 5

def cart (s : Session) (stay : Json) : List (String × Json) :=
  pickedMembers s "product_category" ++
    (if s.picked.category = "" then [("product_category", .text "unknown")] else []) ++
      [quantityMember s, ("stay_sec", stay)]

def payment (s : Session) (method : String) (stay : Json) : List (String × Json) :=
  pickedMembers s "product_category" ++
    [quantityMember s, ("payment_method", .text method), ("stay_sec", stay)]

/-- The home page and the event pages are left without further ado. -/
def homePlaces : List State := [.outside, .browsing, .exit]

/-- What a payload can be made of, by the session after the move. -/
inductive Makes (s : Session) : Action → Part → Prop
  | searched (stay : Json) :
      Makes s .searchSubmitted
        { session := s
          members := [query s, ("page_index", .ofNat s.pageIndex.toNat), ("stay_sec", stay)] }
  | pageTurned (stay : Json) (h : s.state = .nextPage) :
      Makes s .pageViewed
        { session := s.turnPage
          members := [query s, ("stay_sec", stay),
            ("page_index", .ofNat s.turnPage.pageIndex.toNat),
            ("action", .text "scroll_next_page")] }
  | homeViewed (stay : Json) (h : s.state ≠ .nextPage) :
      Makes s .pageViewed
        { session := { s with pageType := "first_page", country := "", category := "" }
          members := [("page_type", .text "first_page"), ("stay_sec", stay)] }
  | eventPage (pageType page : String) (stay : Json) :
      Makes s .eventPageClicked
        { session := { s with pageType, eventPage := page }
          members := [("page_type", .text pageType), ("special_event_category", .text page),
            ("stay_sec", stay)] }
  | recommended (pageType : String) (stay : Json) :
      Makes s .eventPageClicked
        { session := { s with pageType, eventPage := "recommend_category" }
          members := [("page_type", .text pageType),
            ("recommend_category", .text "recommend_list_to_friends"), ("stay_sec", stay)] }
  | exposed (p : Product) (stay : Json) (hp : p ∈ catalog.products)
      (h : s.previous ≠ .search ∧ s.previous ≠ .nextPage) :
      Makes s .productClicked
        { session := remember s p
          members := [("product_id", .text p.id), ("product_name", .text p.name),
            ("category", .text p.category), ("country", .text p.country), ("stay_sec", stay)] }
  | found (p : Product) (how : Match) (hp : p ∈ catalog.products) (h : s.previous = .search) :
      Makes s .productClicked
        { session := remember s p
          members := [query s, ("search_type", .text how.name), ("product_id", .text p.id),
            ("category", .text p.category), ("country", .text p.country)] }
  | nothingFound (h : s.previous = .search) :
      Makes s .productClicked
        { session := s
          members := [query s, ("search_type", .text Match.nothing.name)]
          unmatched := some s.keyword }
  | foundLater (p : Product) (how : Match) (stay : Json) (hp : p ∈ catalog.products)
      (h : s.previous = .nextPage) :
      Makes s .productClicked
        { session := remember s p
          members := [query s, ("stay_sec", stay), ("page_index", .ofNat s.pageIndex.toNat),
            ("search_type", .text how.name), ("product_id", .text p.id),
            ("product_name", .text p.name), ("category", .text p.category),
            ("country", .text p.country)] }
  | nothingFoundLater (stay : Json) (h : s.previous = .nextPage) :
      Makes s .productClicked
        { session := s
          members := [query s, ("stay_sec", stay), ("page_index", .ofNat s.pageIndex.toNat),
            ("search_type", .text Match.nothing.name)]
          unmatched := some s.keyword }
  | countryOpened (country : String) (p : Product) (stay : Json) (hp : p ∈ catalog.products) :
      Makes s .categoryClicked
        { session :=
            { remember s p with pageType := "country_category", country, category := "" }
          members := [("page_type", .text "country_category"), ("selected_country", .text country),
            ("product_id", .text p.id), ("product_name", .text p.name),
            ("category", .text p.category),
            ("recommend_category", .text "country_navigation_list"), ("stay_sec", stay)] }
  | categoryOpened (category : String) (p : Product) (stay : Json) (hp : p ∈ catalog.products) :
      Makes s .categoryClicked
        { session :=
            { remember s p with pageType := "product_category", country := "", category }
          members := [("page_type", .text "product_category"),
            ("selected_category", .text category), ("product_id", .text p.id),
            ("product_name", .text p.name), ("country", .text p.country),
            ("recommend_category", .text "category_navigation_list"), ("stay_sec", stay)] }
  | addedToCart (quantity : UInt32) (hq : Drawable quantity) :
      Makes s .addToCart
        { session := { s with quantity }
          members := pickedMembers s "category" ++ [quantityMember { s with quantity }] }
  | cartCheckedOut (stay : Json) (h : s.previous = .addToCart) :
      Makes s .purchased
        { session := s
          members := cart s stay ++ [("purchase_source", .text "cart_checkout")] }
  | purchased (quantity : UInt32) (method : String) (stay : Json) (h : s.previous ≠ .addToCart)
      (hq : s.previous = .click ∧ Drawable quantity ∨
        s.previous ≠ .click ∧ quantity = s.quantity) :
      Makes s .purchased
        { session := { s with quantity }, members := payment { s with quantity } method stay }
  | homeLeft (a : Action) (ha : a = .back ∨ a = .exit) (h : s.previous ∈ homePlaces) :
      Makes s a { session := s, members := [("exit_reason", .text "user_left")] }
  | eventPageBack (stay : Json) (h : s.previous = .eventBrowsing) :
      Makes s .back
        { session := s
          members := [("from_page", .text s.eventPage), ("to_page", .text "home"),
            ("action", .text "back_button_click"), ("stay_sec", stay)] }
  | eventPageExited (stay : Json) (h : s.previous = .eventBrowsing) :
      Makes s .exit
        { session := s
          members := [("last_viewed_page", .text s.eventPage), ("exit_reason", .text "user_left"),
            ("total_event_stay_sec", stay)] }
  | resultsBack (stay : Json) (h : s.previous = .search) :
      Makes s .back
        { session := s
          members := [query s, ("exit_reason", .text "back_to_home"), ("stay_sec", stay)] }
  | resultsExited (stay : Json) (h : s.previous = .search) :
      Makes s .exit
        { session := s
          members := [query s, ("exit_reason", .text "search_exit"), ("stay_sec", stay)] }
  | laterPageBack (stay stay' : Json) (h : s.previous = .nextPage) :
      Makes s .back
        { session := s
          members := [query s, ("stay_sec", stay), ("action", .text "back_button_click"),
            ("stay_sec", stay')] }
  | laterPageExited (stay stay' : Json) (h : s.previous = .nextPage) :
      Makes s .exit
        { session := s
          members := [query s, ("stay_sec", stay), ("exit_reason", .text "user_left"),
            ("total_event_stay_sec", stay')] }
  | productBack (stay : Json) (h : s.previous = .click) :
      Makes s .back
        { session := s, members := pickedMembers s "category" ++ [("stay_sec", stay)] }
  | productExited (h : s.previous = .click) :
      Makes s .exit
        { session := s
          members := pickedMembers s "category" ++ [("exit_reason", .text "user_left")] }
  | cartBack (stay : Json) (h : s.previous = .addToCart) :
      Makes s .back
        { session := s, members := cart s stay ++ [("action", .text "back_to_previous")] }
  | cartExited (stay : Json) (h : s.previous = .addToCart) :
      Makes s .exit
        { session := s, members := cart s stay ++ [("exit_reason", .text "user_left_with_items")] }
  | paymentBack (method : String) (stay : Json) (h : s.previous = .purchase) :
      Makes s .back { session := s, members := payment s method stay }
  | paymentExited (method : String) (stay stay' : Json) (h : s.previous = .purchase) :
      Makes s .exit
        { session := s
          members := payment s method stay ++ [("action", .text "order_complete_exit"),
            ("exit_reason", .text "user_closed_after_purchase"), ("stay_sec", stay')] }

variable (s : Session)

lemma drawQuantity_drawable : Draw.Always Drawable drawQuantity := by
  refine (Draw.below_lt (by decide : 0 < 5)).bind fun n hn => Draw.always_pure ?_
  have h : ((1 : UInt32) + n.toUInt32).toNat = 1 + n := by
    rw [UInt32.toNat_add, UInt32.toNat_one, Nat.toUInt32,
      UInt32.toNat_ofNat_of_lt' (Nat.lt_trans hn (by decide))]
    omega
  exact ⟨by omega, by omega⟩

abbrev Shaped {α β : Type} (f : β → α) : Draw α → Prop := Draw.Always fun a => ∃ b, a = f b

lemma drawLaterPage_shaped :
    Shaped (fun stay => [query s, ("stay_sec", stay)]) (drawLaterPage s) :=
  Draw.always_bind _ fun stay => Draw.always_pure ⟨stay, rfl⟩

lemma drawCart_shaped : Shaped (cart s) (drawCart s) :=
  Draw.always_bind _ fun stay => Draw.always_pure ⟨stay, rfl⟩

lemma drawPayment_shaped : Shaped (fun d : String × Json => payment s d.1 d.2) (drawPayment s) :=
  Draw.always_bind _ fun method => Draw.always_bind _ fun stay =>
    Draw.always_pure ⟨(method, stay), rfl⟩

/-- Many payloads need one draw only. -/
lemma makes_of_draw {α : Type} {a : Action} (d : Draw α) {f : α → Part}
    (h : ∀ x, Makes s a (f x)) : Draw.Always (Makes s a) (d >>= fun x => pure (f x)) :=
  Draw.always_bind d fun x => Draw.always_pure (h x)

/-- Others begin with members that they share. -/
lemma makes_of_shaped {α β : Type} {a : Action} {d : Draw α} {g : β → α} (hd : Shaped g d)
    {f : α → Draw Part} (h : ∀ b, Draw.Always (Makes s a) (f (g b))) :
    Draw.Always (Makes s a) (d >>= f) := by
  refine hd.bind fun x ⟨b, hb⟩ => ?_
  rw [hb]
  exact h b

/-! ### The home page -/

lemma eventPageOpened_makes : Draw.Always (Makes s .eventPageClicked) (eventPageOpened s) := by
  refine Draw.always_bind _ fun pageType => Draw.Always.ite (fun _ => ?_) fun _ => ?_
  · exact Draw.always_bind _ fun page => makes_of_draw s _ (.eventPage pageType page)
  · exact makes_of_draw s _ (.recommended pageType)

lemma exposureClicked_makes (h : s.previous ≠ .search ∧ s.previous ≠ .nextPage) :
    Draw.Always (Makes s .productClicked) (exposureClicked s) := by
  refine Catalog.drawHomeExposure_finds.bind fun found ⟨p, hp, hfound⟩ => ?_
  rw [hfound]
  exact makes_of_draw s _ fun stay => .exposed p stay hp h

lemma listOpened_makes : Draw.Always (Makes s .categoryClicked) (listOpened s) := by
  refine Draw.always_bind _ fun _ => Draw.Always.ite (fun _ => ?_) fun _ => ?_
  · refine (Draw.choose_mem (by decide)).bind fun drawn ⟨country, hmem, hdrawn⟩ => ?_
    rw [hdrawn]
    refine (Catalog.drawByCountry_finds hmem).bind fun found ⟨p, hp, hfound⟩ => ?_
    rw [hfound]
    exact makes_of_draw s _ fun stay => .countryOpened country p stay hp
  · refine (Draw.choose_mem (by decide)).bind fun drawn ⟨category, hmem, hdrawn⟩ => ?_
    rw [hdrawn]
    refine (Catalog.drawByCategory_finds hmem).bind fun found ⟨p, hp, hfound⟩ => ?_
    rw [hfound]
    exact makes_of_draw s _ fun stay => .categoryOpened category p stay hp

/-! ### The search results -/

lemma resultClicked_makes (h : s.previous = .search) :
    Draw.Always (Makes s .productClicked) (resultClicked s) := by
  refine (catalog.resolve_mem s.keyword).bind fun ⟨found, how⟩ ⟨hmem, hnone⟩ => ?_
  cases found with
  | none =>
    obtain rfl : how = .nothing := hnone rfl
    exact Draw.always_pure (.nothingFound h)
  | some p => exact Draw.always_pure (.found p how (hmem p rfl) h)

lemma laterResultClicked_makes (h : s.previous = .nextPage) :
    Draw.Always (Makes s .productClicked) (laterResultClicked s) := by
  refine makes_of_shaped s (drawLaterPage_shaped s) fun stay => ?_
  refine (catalog.resolve_mem s.keyword).bind fun ⟨found, how⟩ ⟨hmem, hnone⟩ => ?_
  cases found with
  | none =>
    obtain rfl : how = .nothing := hnone rfl
    exact Draw.always_pure (.nothingFoundLater stay h)
  | some p => exact Draw.always_pure (.foundLater p how stay (hmem p rfl) h)

lemma productClicked_makes : Draw.Always (Makes s .productClicked) (productClicked s) := by
  unfold productClicked
  split
  · next h => exact resultClicked_makes s h
  · next h => exact laterResultClicked_makes s h
  · next h h' => exact exposureClicked_makes s ⟨h, h'⟩

/-! ### From the product page to the payment -/

lemma purchased_makes (h : s.previous ≠ .addToCart) :
    Draw.Always (Makes s .purchased) (purchased s) := by
  have hpays : ∀ quantity, s.previous = .click ∧ Drawable quantity ∨
      s.previous ≠ .click ∧ quantity = s.quantity →
      Draw.Always (Makes s .purchased) (do
        return { session := { s with quantity }, members := ← drawPayment { s with quantity } }) :=
    fun quantity hq => makes_of_shaped s (drawPayment_shaped _) fun d =>
      Draw.always_pure (.purchased quantity d.1 d.2 h hq)
  refine Draw.Always.ite (fun hp => ?_) fun hp => ?_
  · exact drawQuantity_drawable.bind fun quantity hq => hpays quantity (.inl ⟨hp, hq⟩)
  · exact hpays s.quantity (.inr ⟨hp, rfl⟩)

/-! ### All payloads -/

lemma homeLeft_makes {a : Action} (ha : a = .back ∨ a = .exit) (h : s.previous ∈ homePlaces) :
    Draw.Always (Makes s a) (pure (homeLeft s)) :=
  Draw.always_pure (.homeLeft a ha h)

lemma back_makes : Draw.Always (Makes s .back) (back s) := by
  unfold back
  split
  · next h => exact makes_of_draw s _ fun stay => .eventPageBack stay h
  · next h => exact makes_of_draw s _ fun stay => .resultsBack stay h
  · next h =>
    exact makes_of_shaped s (drawLaterPage_shaped s) fun stay =>
      makes_of_draw s _ fun stay' => .laterPageBack stay stay' h
  · next h => exact makes_of_draw s _ fun stay => .productBack stay h
  · next h =>
    exact makes_of_shaped s (drawCart_shaped s) fun stay => Draw.always_pure (.cartBack stay h)
  · next h =>
    exact makes_of_shaped s (drawPayment_shaped s) fun d =>
      Draw.always_pure (.paymentBack d.1 d.2 h)
  all_goals
    next h => exact homeLeft_makes s (.inl rfl) (by rw [h]; decide)

lemma exited_makes : Draw.Always (Makes s .exit) (exited s) := by
  unfold exited
  split
  · next h => exact makes_of_draw s _ fun stay => .eventPageExited stay h
  · next h => exact makes_of_draw s _ fun stay => .resultsExited stay h
  · next h =>
    exact makes_of_shaped s (drawLaterPage_shaped s) fun stay =>
      makes_of_draw s _ fun stay' => .laterPageExited stay stay' h
  · next h => exact Draw.always_pure (.productExited h)
  · next h =>
    exact makes_of_shaped s (drawCart_shaped s) fun stay => Draw.always_pure (.cartExited stay h)
  · next h =>
    exact makes_of_shaped s (drawPayment_shaped s) fun d =>
      makes_of_draw s _ fun stay' => .paymentExited d.1 d.2 stay' h
  all_goals
    next h => exact homeLeft_makes s (.inr rfl) (by rw [h]; decide)

/-- **What a payload is made of**, whatever is drawn. -/
lemma part_makes (a : Action) : Draw.Always (Makes s a) (part a s) := by
  cases a with
  | searchSubmitted => exact makes_of_draw s _ .searched
  | pageViewed =>
    refine Draw.Always.ite (fun h => ?_) fun h => ?_
    · exact makes_of_shaped s (drawLaterPage_shaped s) fun stay =>
        Draw.always_pure (.pageTurned stay h)
    · exact makes_of_draw s _ fun stay => .homeViewed stay h
  | eventPageClicked => exact eventPageOpened_makes s
  | productClicked => exact productClicked_makes s
  | categoryClicked => exact listOpened_makes s
  | addToCart =>
    exact drawQuantity_drawable.bind fun quantity hq => Draw.always_pure (.addedToCart quantity hq)
  | purchased =>
    refine Draw.Always.ite (fun h => ?_) fun h => purchased_makes s h
    exact makes_of_shaped s (drawCart_shaped s) fun stay =>
      Draw.always_pure (.cartCheckedOut stay h)
  | back => exact back_makes s
  | exit => exact exited_makes s

/-- The payload has the members of its part, and those that every payload carries. -/
def Tells (s : Session) (a : Action) (g : Generated) : Prop :=
  ∃ p, Makes s a p ∧ g.session = p.session ∧
    g.fields = Fields.ofList (p.members ++ common p.session)

/-- What every payload carries is not written down by its part, everything else is. -/
lemma Tells.get? {s : Session} {a : Action} {g : Generated} (h : Tells s a g) {e : Event}
    (he : e.extra = []) :
    ∃ p, Makes s a p ∧ g.session = p.session ∧ ∀ key, Event.isReserved key = false →
      Fields.last? (common p.session) key = none →
        (e.withExtra g.fields).extra.get? key = Fields.last? p.members key := by
  obtain ⟨p, hp, hsession, hfields⟩ := h
  refine ⟨p, hp, hsession, fun key hkey hcommon => ?_⟩
  rw [hfields, Event.get?_withExtra he hkey, Fields.last?_append, hcommon, Option.none_or]

lemma generate_tells (a : Action) : Draw.Always (Tells s a) (generate a s) :=
  (part_makes s a).bind fun p hp => Draw.always_pure ⟨p, hp, rfl, rfl⟩

end ShopTraffic.Payload
