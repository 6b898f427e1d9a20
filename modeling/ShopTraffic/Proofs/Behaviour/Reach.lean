import Mathlib.Logic.Relation
import Mathlib.Tactic.Common
import ShopTraffic.Behaviour.Reach

/-!
The search for reachable states finds what can be reached, and nothing else: what it has seen can be
reached, and when its queue is empty no successor of a state that it has seen is left out.
-/

namespace ShopTraffic.Table

def Next (T : Table) (s u : State) : Prop := u ∈ T.successors s

def Reaches (T : Table) : State → State → Prop := Relation.ReflTransGen T.Next

variable {T : Table} {s u : State} {seen queue l : List State}

/-! ### Seeing states -/

lemma mem_discover : u ∈ (discover seen l).1 ↔ u ∈ seen ∨ u ∈ l := by
  induction l generalizing seen with
  | nil => simp [discover]
  | cons a l ih =>
    by_cases ha : a ∈ seen
    · rw [discover, if_pos ha, ih, List.mem_cons]
      refine ⟨fun h => h.imp_right .inr, fun h => h.elim .inl fun h => ?_⟩
      exact h.imp_left fun e => by rwa [e]
    · rw [discover, if_neg ha, ih, List.mem_append, List.mem_singleton, List.mem_cons, or_assoc]

/-- What is seen was seen before or is new. -/
lemma mem_discover_new (h : u ∈ (discover seen l).1) : u ∈ seen ∨ u ∈ (discover seen l).2 := by
  induction l generalizing seen with
  | nil => exact .inl h
  | cons a l ih =>
    by_cases ha : a ∈ seen
    · rw [discover, if_pos ha] at h ⊢
      exact ih h
    · rw [discover, if_neg ha] at h ⊢
      rcases ih h with hs | hn
      · exact (List.mem_append.mp hs).imp_right fun e => by
          rw [List.mem_singleton.mp e]
          exact List.mem_cons_self ..
      · exact .inr (List.mem_cons_of_mem _ hn)

lemma discover_new_subset (h : u ∈ (discover seen l).2) : u ∈ l := by
  induction l generalizing seen with
  | nil => cases h
  | cons a l ih =>
    by_cases ha : a ∈ seen
    · rw [discover, if_pos ha] at h
      exact List.mem_cons_of_mem _ (ih h)
    · rw [discover, if_neg ha] at h
      rcases List.mem_cons.mp h with rfl | h
      · exact List.mem_cons_self ..
      · exact List.mem_cons_of_mem _ (ih h)

/-! ### The search -/

/-- Nothing is seen that does not have what successors inherit. -/
lemma searchFrom_sound {P : State → Prop} (hP : ∀ a, P a → ∀ b ∈ T.successors a, P b)
    (hseen : ∀ a ∈ seen, P a) (hqueue : ∀ a ∈ queue, P a) : ∀ a ∈ T.searchFrom seen queue, P a := by
  induction seen, queue using searchFrom.induct T with
  | case1 seen =>
    rw [searchFrom]
    exact hseen
  | case2 seen s queue found ih =>
    rw [searchFrom]
    have hs := hP s (hqueue s (List.mem_cons_self ..))
    refine ih (fun a ha => ?_) fun a ha => ?_
    · exact (mem_discover.mp ha).elim (hseen a) (hs a)
    · rcases List.mem_append.mp ha with ha | ha
      · exact hqueue a (List.mem_cons_of_mem _ ha)
      · exact hs a (discover_new_subset ha)

/-- What is seen stays seen, and in the end no successor is left out. -/
lemma searchFrom_closed (h : ∀ a ∈ seen, a ∈ queue ∨ ∀ b ∈ T.successors a, b ∈ seen) :
    (∀ a ∈ seen, a ∈ T.searchFrom seen queue) ∧
      ∀ a ∈ T.searchFrom seen queue, ∀ b ∈ T.successors a, b ∈ T.searchFrom seen queue := by
  induction seen, queue using searchFrom.induct T with
  | case1 seen =>
    rw [searchFrom]
    exact ⟨fun a ha => ha, fun a ha => (h a ha).resolve_left List.not_mem_nil⟩
  | case2 seen s queue found ih =>
    rw [searchFrom]
    have hseen : ∀ a ∈ seen, a ∈ found.1 := fun a ha => mem_discover.mpr (.inl ha)
    have hnew : ∀ b ∈ T.successors s, b ∈ found.1 := fun b hb => mem_discover.mpr (.inr hb)
    have hopen : ∀ a ∈ found.1, a ∈ queue ++ found.2 ∨ ∀ b ∈ T.successors a, b ∈ found.1 := by
      intro a ha
      rcases mem_discover_new ha with ha | ha
      · rcases h a ha with hq | hx
        · rcases List.mem_cons.mp hq with rfl | hq
          · exact .inr hnew
          · exact .inl (List.mem_append_left _ hq)
        · exact .inr fun b hb => hseen b (hx b hb)
      · exact .inl (List.mem_append_right _ ha)
    obtain ⟨hkept, hclosed⟩ := ih hopen
    exact ⟨fun a ha => hkept a (hseen a ha), hclosed⟩

/-- **The search finds exactly what can be reached.** -/
lemma mem_reachableFrom : u ∈ T.reachableFrom s ↔ T.Reaches s u := by
  have hopen : ∀ a ∈ [s], a ∈ [s] ∨ ∀ b ∈ T.successors a, b ∈ [s] := fun a ha => .inl ha
  obtain ⟨hkept, hclosed⟩ := searchFrom_closed hopen
  constructor
  · have hself : ∀ a ∈ [s], T.Reaches s a := by
      intro a ha
      rw [List.mem_singleton.mp ha]
      exact .refl
    exact searchFrom_sound (fun a ha b hb => ha.tail hb) hself hself u
  · intro h
    induction h with
    | refl => exact hkept s (List.mem_singleton_self s)
    | tail _ hnext ih => exact hclosed _ ih _ hnext

/-- The states without a way to the exit are those of the model that have transitions and no path
to it. -/
lemma mem_statesWithoutExit :
    s ∈ T.statesWithoutExit ↔
      s ∈ State.all ∧ (∃ row, T.row? s = some row ∧ row ≠ []) ∧ ¬T.Reaches s .exit := by
  have hcan : T.canReachExit s = true ↔ T.Reaches s .exit := by
    rw [canReachExit, decide_eq_true_iff, mem_reachableFrom]
  have hlisted : ∀ r, r ∈ T.listed ↔ r.1 ∈ State.all ∧ T.row? r.1 = some r.2 := by
    intro ⟨a, row⟩
    simp only [listed, List.mem_filterMap, Option.map_eq_some_iff, Prod.mk.injEq]
    constructor
    · rintro ⟨b, hb, row', hrow, rfl, rfl⟩
      exact ⟨hb, hrow⟩
    · rintro ⟨ha, hrow⟩
      exact ⟨a, ha, row, hrow, rfl, rfl⟩
  simp only [statesWithoutExit, List.mem_map, List.mem_filter, hlisted, Bool.and_eq_true,
    Bool.not_eq_true', List.isEmpty_eq_false_iff, ← hcan, Bool.not_eq_true]
  constructor
  · rintro ⟨⟨a, row⟩, ⟨⟨ha, hrow⟩, hne, hx⟩, rfl⟩
    exact ⟨ha, ⟨row, hrow, hne⟩, hx⟩
  · rintro ⟨ha, ⟨row, hrow, hne⟩, hx⟩
    exact ⟨(s, row), ⟨⟨ha, hrow⟩, hne, hx⟩, rfl⟩

end ShopTraffic.Table
