import Mathlib
import ShopTraffic.Catalog.Search
import ShopTraffic.Proofs.Random.Uniform

/-!
Looking a keyword up in the indexes of a catalog comes to the same as going through the list of
products. Each index keeps, under every key, the places of the products that have it, in list order
and each place once; so the last of them is the last product of a name, and the `i`-th of them is
the `i`-th product of a country or a category.
-/

namespace ShopTraffic

open ShopTraffic.Random

lemma occursIn_iff (query text : List Char) : occursIn query text = true ↔ query <:+: text := by
  induction text with
  | nil => simp [occursIn]
  | cons c text ih => simp [occursIn, List.infix_cons_iff, ih]

namespace Catalog

/-- What the list of products alone says of a keyword. A choice, if there is one, is made by one
draw of an index. -/
def scan (ps : List Product) (query : String) : Draw (Option Product × Match) :=
  let named := ps.filter (·.name = query)
  let there := ps.filter (·.country = query)
  let alike := ps.filter (·.category = query)
  let parts := ps.filter (query.toList <:+: ·.name.toList)
  if named ≠ [] then return (named.getLast?, .product)
  else if there ≠ [] then do
    let i ← Draw.index there.length
    return (i >>= (there[·]?), .country)
  else if alike ≠ [] then do
    let i ← Draw.index alike.length
    return (i >>= (alike[·]?), .category)
  else if query ≠ "" ∧ parts ≠ [] then return (parts.head?, .part)
  else return (none, .nothing)

def places (key : Product → String) (ps : List Product) (k : String) : List Nat :=
  (ps.zipIdx.filter (key ·.1 = k)).map (·.2)

variable {ps : List Product} {p : Product} {k : String} (key : Product → String)

/-! ### The places of a key -/

lemma places_concat (ps : List Product) (p : Product) (k : String) :
    places key (ps ++ [p]) k = places key ps k ++ if key p = k then [ps.length] else [] := by
  simp only [places, List.zipIdx_append, List.filter_append, List.map_append]
  congr 1
  by_cases h : key p = k <;> simp [h]

/-- What stands at the places of a key are the products that have it. -/
lemma getElem?_places (ps : List Product) (k : String) (i : Nat) :
    ((places key ps k)[i]? >>= (ps[·]?)) = (ps.filter (key · = k))[i]? := by
  have hfst : ps.filter (key · = k) = (ps.zipIdx.filter (key ·.1 = k)).map (·.1) := by
    conv_lhs => rw [← List.zipIdx_map_fst 0 ps, List.filter_map]
    rfl
  rw [hfst, places, List.getElem?_map, List.getElem?_map]
  cases h : (ps.zipIdx.filter (key ·.1 = k))[i]? with
  | none => rfl
  | some e =>
    have hmem := List.mem_filter.mp (List.mem_of_getElem? h)
    exact List.mem_zipIdx_iff_getElem?.mp hmem.1

lemma length_places (ps : List Product) (k : String) :
    (places key ps k).length = (ps.filter (key · = k)).length := by
  induction ps using List.reverseRecOn with
  | nil => rfl
  | append_singleton ps p ih =>
    rw [places_concat, List.filter_append, List.length_append, List.length_append, ih]
    by_cases h : key p = k <;> simp [h]

/-! ### The indexes -/

lemma ofList_concat (ps : List Product) (p : Product) :
    ofList (ps ++ [p]) = (ofList ps).add p := by
  simp [ofList, List.foldl_append]

lemma toList_products (ps : List Product) : (ofList ps).products.toList = ps := by
  induction ps using List.reverseRecOn with
  | nil => rfl
  | append_singleton ps p ih => simp [ofList_concat, add, ih]

lemma size_products (ps : List Product) : (ofList ps).products.size = ps.length := by
  rw [← Array.length_toList, toList_products]

lemma getD_enlist (index : Std.TreeMap String (List Nat)) (key k : String) (i : Nat) :
    ((enlist index key i)[k]?).getD [] =
      (index[k]?).getD [] ++ if key = k then [i] else [] := by
  rw [enlist, Std.TreeMap.getElem?_insert]
  by_cases h : key = k
  · subst h
    simp
  · simp [h]

/-- **The indexes say where the products stand.** -/
lemma ofList_indexes (ps : List Product) (k : String) :
    (ofList ps).byName[k]? = (places (·.name) ps k).getLast? ∧
      ((ofList ps).byCountry[k]?).getD [] = places (·.country) ps k ∧
      ((ofList ps).byCategory[k]?).getD [] = places (·.category) ps k := by
  induction ps using List.reverseRecOn with
  | nil => simp [ofList, empty, places]
  | append_singleton ps p ih =>
    obtain ⟨hname, hcountry, hcategory⟩ := ih
    simp only [ofList_concat, add, size_products, places_concat, getD_enlist, hcountry, hcategory,
      and_self, and_true]
    rw [Std.TreeMap.getElem?_insert, hname]
    by_cases h : p.name = k <;> simp [h]

/-! ### Looking up -/

/-- By its name the last product of that name is found. -/
lemma find?_ofList (ps : List Product) (query : String) :
    (ofList ps).find? query = (ps.filter (·.name = query)).getLast? := by
  rw [find?, (ofList_indexes ps query).1, List.getLast?_eq_getElem?, List.getLast?_eq_getElem?,
    length_places, ← getElem?_places]
  simp [← Array.getElem?_toList, toList_products]

lemma drawFrom_eq (c : Catalog) (index : Std.TreeMap String (List Nat)) (k : String) :
    c.drawFrom index k =
      (do return (← Draw.choose ((index[k]?).getD [])) >>= (c.products[·]?)) := by
  unfold drawFrom
  cases index[k]? <;> rfl

variable {key}

/-- Drawing from an index is drawing from the products that have the key. -/
lemma drawFrom_ofList {index : Std.TreeMap String (List Nat)}
    (h : (index[k]?).getD [] = places key ps k) :
    (ofList ps).drawFrom index k = Draw.choose (ps.filter (key · = k)) := by
  rw [drawFrom_eq, h]
  unfold Draw.choose
  rw [bind_assoc, length_places]
  congr 1
  funext found
  cases found with
  | none => rfl
  | some i =>
    simp only [pure_bind, ← Array.getElem?_toList, toList_products]
    rw [getElem?_places]

lemma findPart?_ofList (ps : List Product) (query : String) :
    (ofList ps).findPart? query =
      if query = "" then none else (ps.filter (query.toList <:+: ·.name.toList)).head? := by
  rw [findPart?, toList_products, ← List.head?_filter]
  simp only [← occursIn_iff, Bool.decide_eq_true, String.isEmpty_iff]

@[simp] lemma choose_nil : Draw.choose ([] : List Product) = pure none := rfl

/-- What is chosen is the entry with the index that is drawn. -/
lemma choose_eq {items : List Product} (h : items ≠ []) (src : Source) :
    ∃ i p src', i < items.length ∧ items[i]? = some p ∧
      Draw.index items.length src = (some i, src') ∧ Draw.choose items src = (some p, src') := by
  have hlen : 0 < items.length := List.length_pos_iff.mpr h
  obtain ⟨⟨i, src'⟩, hdraw⟩ : ∃ r,
    Draw.scaled .u64 items.length (IntKind.zone .u64 items.length) Draw.refusals src = r := ⟨_, rfl⟩
  have hlt : i < items.length := by
    simpa [hdraw] using Draw.scaled_lt .u64 hlen (IntKind.zone .u64 items.length) Draw.refusals src
  have hitem := List.getElem?_eq_getElem hlt
  have hindex : Draw.index items.length src = (some i, src') := by
    rw [Draw.index, if_neg (by omega)]
    simp [bind, StateT.bind, hdraw, pure, StateT.pure]
  refine ⟨i, items[i], src', hlt, hitem, hindex, ?_⟩
  simp [Draw.choose, bind, StateT.bind, hindex, hitem, pure, StateT.pure]

/-- **The indexes and the list agree** on every keyword, and use up the same random numbers. -/
lemma resolve_eq_scan (ps : List Product) (query : String) :
    (ofList ps).resolve query = scan ps query := by
  funext src
  unfold resolve scan
  rw [find?_ofList, findPart?_ofList, drawByCountry, drawByCategory,
    drawFrom_ofList (ofList_indexes ps query).2.1, drawFrom_ofList (ofList_indexes ps query).2.2]
  generalize ps.filter (·.name = query) = named
  generalize ps.filter (·.country = query) = there
  generalize ps.filter (·.category = query) = alike
  generalize ps.filter (query.toList <:+: ·.name.toList) = parts
  by_cases hn : named = []
  case neg =>
    obtain ⟨p, hp⟩ := Option.ne_none_iff_exists'.mp (mt List.getLast?_eq_none_iff.mp hn)
    simp [hp, hn]
  subst hn
  by_cases ht : there = []
  case neg =>
    obtain ⟨i, p, src', hi, hitem, hdraw, hchoose⟩ := choose_eq ht src
    simp [bind, StateT.bind, hchoose, hdraw, hitem, ht]
  subst ht
  rw [choose_nil, pure_bind]
  by_cases ha : alike = []
  case neg =>
    obtain ⟨i, p, src', hi, hitem, hdraw, hchoose⟩ := choose_eq ha src
    simp [bind, StateT.bind, hchoose, hdraw, hitem, ha]
  subst ha
  by_cases hq : query = ""
  · simp [hq]
  · cases parts <;> simp [hq]

def OneIndex (below : Nat) (src src' : Source) : Prop :=
  ∃ i < below, Draw.index below src = (some i, src')

/-- What is drawn for a match: one index among the products to choose from, if it has a choice. -/
def Takes (ps : List Product) (query : String) (src src' : Source) : Match → Prop
  | .country => OneIndex (ps.filter (·.country = query)).length src src'
  | .category => OneIndex (ps.filter (·.category = query)).length src src'
  | .product | .part | .nothing => src' = src

/-- What a scan draws, and when it ends without a product. -/
lemma scan_takes (ps : List Product) (query : String) (src : Source) :
    let r := scan ps query src
    (r.1.1 = none ↔ r.1.2 = .nothing) ∧ Takes ps query src r.2 r.1.2 := by
  unfold scan Takes
  generalize ps.filter (·.name = query) = named
  generalize ps.filter (·.country = query) = there
  generalize ps.filter (·.category = query) = alike
  generalize ps.filter (query.toList <:+: ·.name.toList) = parts
  by_cases hn : named = []
  case neg => simp [hn, pure, StateT.pure]
  by_cases ht : there = []
  case neg =>
    obtain ⟨i, p, src', hi, hitem, hdraw, -⟩ := choose_eq ht src
    simp only [hn, ht, bind, StateT.bind, hdraw, ne_eq, not_true_eq_false, not_false_eq_true,
      if_true, if_false, Option.bind_some, hitem]
    exact ⟨⟨nofun, nofun⟩, i, hi, hdraw⟩
  by_cases ha : alike = []
  case neg =>
    obtain ⟨i, p, src', hi, hitem, hdraw, -⟩ := choose_eq ha src
    simp only [hn, ht, ha, bind, StateT.bind, hdraw, ne_eq, not_true_eq_false, not_false_eq_true,
      if_true, if_false, Option.bind_some, hitem]
    exact ⟨⟨nofun, nofun⟩, i, hi, hdraw⟩
  by_cases hp : query ≠ "" ∧ parts ≠ []
  · simp [hn, ht, ha, hp, pure, StateT.pure]
  · simp [hn, ht, ha, hp, pure, StateT.pure]

/-- **A keyword is resolved as by going through the list.** In a catalog that is made of a list of
products, what a keyword leads to is the last product with that name; otherwise the `i`-th product
of that country in the list, where `i` is one index drawn below their number; otherwise the same for
the category; otherwise the first product whose name contains the keyword, unless it is empty; and
otherwise nothing. No random number is drawn but for that index, and a product is missing only if
nothing is matched. -/
theorem ofList_resolve (ps : List Product) (query : String) (src : Source) :
    let r := (ofList ps).resolve query src
    r = scan ps query src ∧ (r.1.1 = none ↔ r.1.2 = .nothing) ∧ Takes ps query src r.2 r.1.2 := by
  intro r
  have hr : r = scan ps query src := congrFun (resolve_eq_scan ps query) src
  rw [hr]
  exact ⟨rfl, scan_takes ps query src⟩

/-- Two of three products have the same name, and two are in the same country. -/
def ferries : List Product :=
  [⟨"A1", "Ferry", "Macau", "transport", []⟩, ⟨"A2", "Tower", "Macau", "attraction", []⟩,
    ⟨"A3", "Ferry", "Taiwan", "transport", []⟩]

theorem ofList_resolve_ferries :
    let c := ofList ferries
    let src := Source.seeded 2
    (c.resolve "Ferry" src).1 = (ferries[2]?, .product) ∧
      (c.resolve "Macau" src).1 = (ferries[1]?, .country) ∧
      OneIndex 2 src (c.resolve "Macau" src).2 ∧
      (c.resolve "Ferr" src).1 = (ferries[0]?, .part) ∧
      (c.resolve "" src).1 = (none, .nothing) := by
  intro c src
  obtain ⟨hname, -, -⟩ := ofList_resolve ferries "Ferry" src
  obtain ⟨hcountry, -, htakes⟩ := ofList_resolve ferries "Macau" src
  obtain ⟨hpart, -, -⟩ := ofList_resolve ferries "Ferr" src
  obtain ⟨hempty, -, -⟩ := ofList_resolve ferries "" src
  have hmatch : (c.resolve "Macau" src).1 = (ferries[1]?, .country) :=
    (congrArg (·.1) hcountry).trans (by decide +kernel)
  rw [hmatch] at htakes
  exact ⟨(congrArg (·.1) hname).trans (by decide +kernel), hmatch, htakes,
    (congrArg (·.1) hpart).trans (by decide +kernel),
    (congrArg (·.1) hempty).trans (by decide +kernel)⟩

end Catalog

end ShopTraffic
