import Mathlib.Data.List.Chain
import Mathlib.Data.List.Perm.Subperm
import Mathlib.Logic.Function.Iterate
import ShopTraffic.Proofs.Behaviour.Reach

/-!
The search for reachable states, as a loop and by its result. Every round takes one state from the
queue and puts those of its successors at the end that were not seen before; so no state is queued
twice, and the loop ends after as many rounds as states are found. What is found are the ends of all
paths along transitions that can be drawn, where going back counts as going to the start.
-/

namespace ShopTraffic.Table

/-- A transition with a weight above zero leads from one state to the other. Without a target it
counts as leading to the home page. -/
def Edge (T : Table) (s u : State) : Prop :=
  ∃ t ∈ T.transitions s, t.weight > 0 ∧ (t.target = some u ∨ t.target = none ∧ u = .browsing)

/-- The states that follow `s` on a path, the last of which is `u`; the empty path ends where it
begins. -/
def IsPath (T : Table) (s u : State) (path : List State) : Prop :=
  (s :: path).IsChain T.Edge ∧ (s :: path).getLast (List.cons_ne_nil s path) = u

def round (T : Table) : List State × List State → List State × List State
  | (seen, []) => (seen, [])
  | (seen, s :: queue) =>
    let found := discover seen (T.successors s)
    (found.1, queue ++ found.2)

variable {T : Table} {s u : State} {seen queue l : List State}

/-! ### Paths -/

lemma next_iff_edge : T.Next s u ↔ T.Edge s u := by
  simp only [Next, successors, List.mem_map, List.mem_filter, Edge, Transition.possible,
    decide_eq_true_iff, and_assoc]
  refine exists_congr fun t => and_congr_right fun _ => and_congr_right fun _ => ?_
  cases t.target with
  | none => simp [State.start, eq_comm]
  | some v => simp

/-- What can be reached is the end of a path, which goes through finitely many states. -/
lemma reaches_iff_path : T.Reaches s u ↔ ∃ path, T.IsPath s u path := by
  have hedge : T.Next = T.Edge := funext fun s => funext fun u => propext next_iff_edge
  rw [Reaches, hedge]
  constructor
  · exact List.exists_isChain_cons_of_relationReflTransGen
  · rintro ⟨path, hchain, hlast⟩
    exact List.relationReflTransGen_of_exists_isChain_cons path hchain hlast

/-! ### Rounds -/

/-- New states are put behind those that were seen. -/
lemma discover_seen (seen l : List State) :
    (discover seen l).1 = seen ++ (discover seen l).2 := by
  induction l generalizing seen with
  | nil => simp [discover]
  | cons a l ih =>
    by_cases ha : a ∈ seen
    · simpa only [discover, if_pos ha] using ih seen
    · simp only [discover, if_neg ha]
      rw [ih, List.append_assoc, List.singleton_append]

lemma discover_nodup (h : seen.Nodup) : (discover seen l).1.Nodup := by
  induction l generalizing seen with
  | nil => exact h
  | cons a l ih =>
    by_cases ha : a ∈ seen
    · rw [discover, if_pos ha]
      exact ih h
    · rw [discover, if_neg ha]
      refine ih (List.nodup_append.mpr ⟨h, by simp, ?_⟩)
      rintro b hb c hc rfl
      exact ha (List.mem_singleton.mp hc ▸ hb)

/-- **No state is found twice.** -/
lemma searchFrom_nodup (h : seen.Nodup) : (T.searchFrom seen queue).Nodup := by
  induction seen, queue using searchFrom.induct T with
  | case1 seen => rwa [searchFrom]
  | case2 seen s queue found ih =>
    rw [searchFrom]
    exact ih (discover_nodup h)

/-- **The loop ends**: what is queued and what is still to be found is taken in one round each. -/
lemma searchFrom_rounds (T : Table) (seen queue : List State) :
    ∃ n, T.round^[n] (seen, queue) = (T.searchFrom seen queue, []) ∧
      n + seen.length = queue.length + (T.searchFrom seen queue).length := by
  induction seen, queue using searchFrom.induct T with
  | case1 seen =>
    rw [searchFrom]
    exact ⟨0, rfl, rfl⟩
  | case2 seen s queue found ih =>
    obtain ⟨n, hrounds, hcount⟩ := ih
    have hnext : T.searchFrom seen (s :: queue) = T.searchFrom found.1 (queue ++ found.2) := by
      rw [searchFrom]
    -- what is new is seen and queued, so it counts on both sides
    have hnew : found.1.length = seen.length + found.2.length := by
      rw [← List.length_append]
      exact congrArg List.length (discover_seen seen (T.successors s))
    rw [hnext]
    refine ⟨n + 1, hrounds, ?_⟩
    rw [List.length_append] at hcount
    rw [List.length_cons]
    omega

lemma reachableFrom_nodup (T : Table) (s : State) : (T.reachableFrom s).Nodup :=
  searchFrom_nodup (List.pairwise_singleton _ s)

lemma reachableFrom_rounds (T : Table) (s : State) :
    T.round^[(T.reachableFrom s).length] ([s], [s]) = (T.reachableFrom s, []) := by
  obtain ⟨n, hrounds, hcount⟩ := searchFrom_rounds T [s] [s]
  obtain rfl : n = (T.reachableFrom s).length :=
    Nat.add_right_cancel (hcount.trans (Nat.add_comm ..))
  exact hrounds

lemma length_reachableFrom_le (T : Table) (s : State) : (T.reachableFrom s).length ≤ 9 :=
  ((reachableFrom_nodup T s).subperm fun u _ => mem_everyState u).length_le

/-! ### Rows -/

/-- The states without a way to the exit are listed in the order of the model. -/
lemma statesWithoutExit_sublist (T : Table) : T.statesWithoutExit.Sublist State.all := by
  have hlisted : ∀ l : List State,
      ((l.filterMap fun s => (T.row? s).map (s, ·)).map (·.1)).Sublist l := by
    intro l
    induction l with
    | nil => exact .slnil
    | cons s l ih =>
      rcases h : T.row? s with _ | row
      · simpa [h] using ih.cons s
      · simpa [h] using ih.cons_cons s
  exact (List.filter_sublist.map _).trans (hlisted State.all)

lemma lookup_row (r : State × List Transition) (rows : List (State × List Transition))
    (s : State) : (r :: rows).lookup s = if s = r.1 then some r.2 else rows.lookup s := by
  rw [List.lookup_cons]
  by_cases h : s = r.1
  · simp [h]
  · rw [if_neg h, beq_false_of_ne h]

lemma row?_insert (T : Table) (s u : State) (row : List Transition) :
    (T.insert s row).row? u = if u = s then some row else T.row? u := by
  rw [row?, insert, lookup_row]
  split
  · rfl
  · next hne =>
    rw [row?]
    induction T.rows with
    | nil => rfl
    | cons r rows ih =>
      by_cases hr : r.1 = s
      · have hu : u ≠ r.1 := hr ▸ hne
        rw [List.filter_cons_of_neg (by simp [hr]), ih, lookup_row, if_neg hu]
      · rw [List.filter_cons_of_pos (by simp [hr]), lookup_row, lookup_row, ih]

/-- **Of two rows of one state the later counts.** -/
lemma row?_ofRows {rows : List (State × List Transition)} (h : ofRows? rows = some T) (s : State) :
    T.row? s = rows.reverse.lookup s := by
  have hrow : ∀ rows : List (State × List Transition),
      (rows.foldl (fun t r => t.insert r.1 r.2) ⟨[]⟩ : Table).row? s = rows.reverse.lookup s := by
    intro rows
    induction rows using List.reverseRecOn with
    | nil => rfl
    | append_singleton rows r ih =>
      rw [List.foldl_append, List.foldl_cons, List.foldl_nil, row?_insert, ih,
        List.reverse_append, List.reverse_singleton, List.singleton_append, lookup_row]
  rw [ofRows?] at h
  split at h
  · cases h
  · rw [← Option.some.inj h]
    exact hrow rows

/-! ### The result -/

/-- **The search for reachable states is exact.** Of the rows that a table is built of, the last one
of each state counts. From every state the loop of the search takes as many rounds as it finds
states, nine at most, and it finds each of them once: the ends of all paths along transitions with a
weight above zero, where one without a target counts as leading to the home page. Reported are, in
the order of the model, those of its states that have transitions and no such path to the exit. -/
theorem search_exact (T : Table) :
    (∀ rows, ofRows? rows = some T → ∀ s, T.row? s = rows.reverse.lookup s) ∧
    (∀ s, (T.reachableFrom s).length ≤ 9 ∧
      T.round^[(T.reachableFrom s).length] ([s], [s]) = (T.reachableFrom s, []) ∧
      (T.reachableFrom s).Nodup ∧
      ∀ u, u ∈ T.reachableFrom s ↔ ∃ path, T.IsPath s u path) ∧
    T.statesWithoutExit.Sublist State.all ∧
    ∀ s, s ∈ T.statesWithoutExit ↔
      s ∈ State.all ∧ (∃ row, T.row? s = some row ∧ row ≠ []) ∧ ¬∃ path, T.IsPath s .exit path := by
  refine ⟨fun rows h => row?_ofRows h, fun s => ⟨length_reachableFrom_le T s,
    reachableFrom_rounds T s, reachableFrom_nodup T s, fun u => ?_⟩,
    statesWithoutExit_sublist T, fun s => ?_⟩
  · rw [mem_reachableFrom, reaches_iff_path]
  · rw [mem_statesWithoutExit, reaches_iff_path]

/-- Rows that a table can be built of. Of the two rows of the home page the later one counts: it
leads to itself, to a page without a row, and, with weights that do not count, elsewhere. -/
def awkward : List (State × List Transition) :=
  [(.browsing, [.go .exit .exit 1]),
    (.browsing, [.go .pageViewed .browsing 1, .go .pageViewed .browsing 2,
      .go .searchSubmitted .search (0 / 0), .go .productClicked .click (-1), .go .exit .exit 0,
      .go .addToCart .addToCart 1]),
    (.search, [.back 1]),
    (.purchase, []),
    (.outside, [.go .pageViewed .browsing 1])]

/-- Going back from a search counts as a path to the home page of these rows, and it leads on to the
cart, but no path leads to the exit. None does from outside either, but that is not reported, and
neither are the pages that have no transitions. -/
theorem search_exact_awkward :
    ∃ T, ofRows? awkward = some T ∧ (∃ row ∈ T.row? .browsing, .go .exit .exit 0 ∈ row) ∧
      T.reachableFrom .search = [.search, .browsing, .addToCart] ∧
      (∃ path, T.IsPath .search .addToCart path) ∧ (¬∃ path, T.IsPath .search .exit path) ∧
      (¬∃ path, T.IsPath .outside .exit path) ∧ T.statesWithoutExit = [.browsing, .search] := by
  have hvalues : (ofRows? awkward).map (fun T =>
      (T.reachableFrom .search, T.reachableFrom .outside, T.statesWithoutExit)) =
      some ([.search, .browsing, .addToCart], [.outside, .browsing, .addToCart],
        [.browsing, .search]) := by
    decide +kernel
  obtain ⟨T, hT, hvalues⟩ := Option.map_eq_some_iff.mp hvalues
  obtain ⟨hsearch, houtside, hreported⟩ : _ ∧ _ ∧ _ := by simpa only [Prod.mk.injEq] using hvalues
  obtain ⟨hrow, hreach, -⟩ := search_exact T
  have hfound : ∀ u, u ∈ [.search, .browsing, .addToCart] ↔ ∃ path, T.IsPath .search u path :=
    hsearch ▸ (hreach .search).2.2.2
  have hfound' : ∀ u, u ∈ [.outside, .browsing, .addToCart] ↔ ∃ path, T.IsPath .outside u path :=
    houtside ▸ (hreach .outside).2.2.2
  refine ⟨T, hT, ?_, hsearch, (hfound .addToCart).mp (by decide), fun hx => ?_, fun hx => ?_,
    hreported⟩
  · rw [hrow awkward hT .browsing]
    decide +kernel
  · exact absurd ((hfound .exit).mpr hx) (by decide)
  · exact absurd ((hfound' .exit).mpr hx) (by decide)

end ShopTraffic.Table
