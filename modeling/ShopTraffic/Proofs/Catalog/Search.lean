import ShopTraffic.Catalog.Search
import ShopTraffic.Proofs.Random.Uniform

/-!
Whatever is looked up in a catalog, by name, by country, by category or by a part of a name, what is
found is one of its products. The indexes leave no product out, so what some product has as its
name, its country or its category is found.
-/

namespace ShopTraffic

open ShopTraffic.Random

namespace Catalog

variable (c : Catalog)

lemma find?_mem {name : String} {p : Product} (h : c.find? name = some p) : p ∈ c.products := by
  obtain ⟨i, -, hi⟩ := Option.bind_eq_some_iff.mp h
  exact Array.mem_of_getElem? hi

lemma drawFrom_mem (index : Std.TreeMap String (List Nat)) (key : String) :
    Draw.Always (fun found => ∀ p, found = some p → p ∈ c.products) (c.drawFrom index key) := by
  unfold drawFrom
  split
  · exact Draw.always_pure nofun
  · refine Draw.always_bind _ fun i => Draw.always_pure fun p h => ?_
    obtain ⟨i, -, hi⟩ := Option.bind_eq_some_iff.mp h
    exact Array.mem_of_getElem? hi

lemma findPart?_mem {query : String} {p : Product} (h : c.findPart? query = some p) :
    p ∈ c.products := by
  unfold findPart? at h
  split at h
  · cases h
  · exact Array.mem_toList_iff.mp (List.mem_of_find?_eq_some h)

/-- **A keyword leads to a product of the catalog**, or it is said to match nothing. -/
lemma resolve_mem (query : String) :
    Draw.Always (fun r => (∀ p, r.1 = some p → p ∈ c.products) ∧ (r.1 = none → r.2 = .nothing))
      (c.resolve query) := by
  have hfound : ∀ {p : Product} (how : Match), p ∈ c.products →
      Draw.Always (fun r => (∀ p, r.1 = some p → p ∈ c.products) ∧ (r.1 = none → r.2 = .nothing))
        (pure (some p, how)) := by
    intro p how hp
    exact Draw.always_pure ⟨fun q hq => Option.some.inj hq ▸ hp, nofun⟩
  unfold resolve
  split
  · next h => exact hfound _ (c.find?_mem h)
  refine (c.drawFrom_mem c.byCountry query).bind fun found hmem => ?_
  split
  · exact hfound _ (hmem _ rfl)
  refine (c.drawFrom_mem c.byCategory query).bind fun found hmem => ?_
  split
  · exact hfound _ (hmem _ rfl)
  split
  · next h => exact hfound _ (c.findPart?_mem h)
  · exact Draw.always_pure ⟨nofun, fun _ => rfl⟩

/-- Visitors search for the keywords of the shop. -/
lemma drawKeyword_mem : Draw.Always (· ∈ keywords) drawKeyword := by
  refine (Draw.choose_mem (by decide)).bind fun found ⟨k, hk, hfound⟩ => Draw.always_pure ?_
  rw [hfound]
  exact hk

/-! ### The indexes -/

/-- The index lists every product under its key, and nothing but products. -/
structure Lists (products : Array Product) (key : Product → String)
    (index : Std.TreeMap String (List Nat)) : Prop where
  listed : ∀ p ∈ products, ∃ is, index[key p]? = some is
  within : ∀ (k : String) (is : List Nat), index[k]? = some is →
    is ≠ [] ∧ ∀ i ∈ is, i < products.size

structure Indexed (c : Catalog) : Prop where
  byName : ∀ p ∈ c.products, ∃ i, c.byName[p.name]? = some i
  within : ∀ (name : String) (i : Nat), c.byName[name]? = some i → i < c.products.size
  byCountry : Lists c.products (·.country) c.byCountry
  byCategory : Lists c.products (·.category) c.byCategory

lemma Lists.push {products : Array Product} {key : Product → String}
    {index : Std.TreeMap String (List Nat)} (h : Lists products key index) (p : Product) :
    Lists (products.push p) key (enlist index (key p) products.size) where
  listed q hq := by
    unfold enlist
    rw [Std.TreeMap.getElem?_insert]
    split
    · exact ⟨_, rfl⟩
    · next hne =>
      rcases Array.mem_push.mp hq with hq | rfl
      · exact h.listed q hq
      · exact absurd Std.ReflCmp.compare_self hne
  within k is hk := by
    unfold enlist at hk
    rw [Std.TreeMap.getElem?_insert] at hk
    rw [Array.size_push]
    split at hk
    · obtain rfl := Option.some.inj hk
      refine ⟨by simp, fun i hi => ?_⟩
      rcases List.mem_append.mp hi with hi | hi
      · rcases hold : index[key p]? with _ | old <;> rw [hold] at hi
        · exact absurd hi List.not_mem_nil
        · exact Nat.lt_succ_of_lt ((h.within _ _ hold).2 i hi)
      · rw [List.mem_singleton.mp hi]
        exact Nat.lt_succ_self _
    · exact ⟨(h.within k is hk).1, fun i hi => Nat.lt_succ_of_lt ((h.within k is hk).2 i hi)⟩

lemma Indexed.add {c : Catalog} (h : c.Indexed) (p : Product) : (c.add p).Indexed where
  byName q hq := by
    unfold Catalog.add
    dsimp only
    rw [Std.TreeMap.getElem?_insert]
    split
    · exact ⟨_, rfl⟩
    · next hne =>
      rcases Array.mem_push.mp hq with hq | rfl
      · exact h.byName q hq
      · exact absurd Std.ReflCmp.compare_self hne
  within name i hi := by
    unfold Catalog.add at hi ⊢
    dsimp only at hi ⊢
    rw [Std.TreeMap.getElem?_insert] at hi
    rw [Array.size_push]
    split at hi
    · rw [← Option.some.inj hi]
      exact Nat.lt_succ_self _
    · exact Nat.lt_succ_of_lt (h.within name i hi)
  byCountry := h.byCountry.push p
  byCategory := h.byCategory.push p

/-- **A catalog has the products that it is made of, and indexes all of them.** -/
lemma ofList_indexed (ps : List Product) :
    (ofList ps).products.toList = ps ∧ (ofList ps).Indexed := by
  have h : ∀ c : Catalog, c.Indexed →
      (ps.foldl add c).products.toList = c.products.toList ++ ps ∧ (ps.foldl add c).Indexed := by
    induction ps with
    | nil => exact fun c h => ⟨(List.append_nil _).symm, h⟩
    | cons p ps ih =>
      intro c h
      obtain ⟨hlist, hindexed⟩ := ih (c.add p) (h.add p)
      refine ⟨?_, hindexed⟩
      rw [List.foldl_cons, hlist]
      simp [add]
  have hempty : ∀ key, Lists #[] key ∅ := fun key =>
    ⟨fun p hp => by simp at hp, fun k is hk => by simp at hk⟩
  refine h empty ⟨fun p hp => by simp [empty] at hp, fun name i hi => by simp [empty] at hi,
    hempty _, hempty _⟩

variable {c}

/-- What some product has as its key is found. -/
lemma Lists.drawFrom_finds {key : Product → String} {index : Std.TreeMap String (List Nat)}
    (h : Lists c.products key index) {p : Product} (hp : p ∈ c.products) :
    Draw.Always (fun found => ∃ q ∈ c.products, found = some q) (c.drawFrom index (key p)) := by
  obtain ⟨is, his⟩ := h.listed p hp
  obtain ⟨hne, hwithin⟩ := h.within _ _ his
  unfold drawFrom
  rw [his]
  refine (Draw.choose_mem hne).bind fun found ⟨i, hi, hfound⟩ => Draw.always_pure ?_
  rw [hfound]
  exact ⟨_, Array.getElem_mem (hwithin i hi), Array.getElem?_eq_getElem (hwithin i hi)⟩

lemma Indexed.find?_finds (h : c.Indexed) {p : Product} (hp : p ∈ c.products) :
    ∃ q ∈ c.products, c.find? p.name = some q := by
  obtain ⟨i, hi⟩ := h.byName p hp
  have hlt := h.within _ _ hi
  refine ⟨_, Array.getElem_mem hlt, ?_⟩
  unfold find?
  rw [hi]
  exact Array.getElem?_eq_getElem hlt

/-! ### The ticket shop -/

lemma mem_standard {p : Product} (h : p ∈ tickets) : p ∈ standard.products := by
  rw [← Array.mem_toList_iff, standard, (ofList_indexed tickets).1]
  exact h

lemma standard_indexed : standard.Indexed := (ofList_indexed tickets).2

/-- A product of every country is found, -/
lemma drawByCountry_finds {country : String} (h : country ∈ countries) :
    Draw.Always (fun found => ∃ p ∈ standard.products, found = some p)
      (standard.drawByCountry country) := by
  have hall : ∀ country ∈ countries, ∃ p ∈ tickets, p.country = country := by decide
  obtain ⟨p, hp, rfl⟩ := hall country h
  exact standard_indexed.byCountry.drawFrom_finds (mem_standard hp)

/-- a product of every category, -/
lemma drawByCategory_finds {category : String} (h : category ∈ categories) :
    Draw.Always (fun found => ∃ p ∈ standard.products, found = some p)
      (standard.drawByCategory category) := by
  have hall : ∀ category ∈ categories, ∃ p ∈ tickets, p.category = category := by decide
  obtain ⟨p, hp, rfl⟩ := hall category h
  exact standard_indexed.byCategory.drawFrom_finds (mem_standard hp)

/-- and each product at the top of the home page. -/
lemma drawHomeExposure_finds :
    Draw.Always (fun found => ∃ p ∈ standard.products, found = some p)
      standard.drawHomeExposure := by
  have hall : ∀ name ∈ homeExposure, ∃ p ∈ tickets, p.name = name := by decide
  refine (Draw.choose_mem (by decide)).bind fun found ⟨name, hmem, hfound⟩ => Draw.always_pure ?_
  obtain ⟨p, hp, rfl⟩ := hall name hmem
  rw [hfound, Option.bind_eq_bind, Option.bind_some]
  exact standard_indexed.find?_finds (mem_standard hp)

end Catalog

end ShopTraffic
