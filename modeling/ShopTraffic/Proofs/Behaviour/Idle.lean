import ShopTraffic.Proofs.Behaviour.Moves

/-!
Steps that come to nothing. There is no move from a place whose row has a weight that is negative or
no number, or no weight above zero; a place without a row has no weights at all. Such a step draws
nothing and tells of nothing. Still it is not without effect on a session that is nowhere: the
session has entered before the step finds that there is no way on.
-/

namespace ShopTraffic

open ShopTraffic.Random

/-! ### Rows that nothing is drawn from -/

namespace Table

/-- No transition can be drawn at the state: a weight is negative or no number, or no transition is
possible. -/
def Stalls (T : Table) (s : State) : Prop :=
  (∃ t ∈ T.transitions s, ¬ 0 ≤ t.weight) ∨ ∀ t ∈ T.transitions s, t.possible = false

variable {T : Table} {s : State}

lemma stalls_iff :
    T.Stalls s ↔ Weighted.ofWeights? ((T.transitions s).map (·.weight)) = none := by
  rw [← Option.not_isSome_iff_eq_none, Option.isSome_iff_exists, Weighted.ofWeights?_isSome_iff,
    not_and_or]
  refine or_congr ?_ ?_
  · rw [List.forall_mem_map]
    simp only [not_forall, exists_prop]
  · simp only [List.mem_map, exists_exists_and_eq_and, not_exists, not_and, Transition.possible,
      decide_eq_false_iff_not, gt_iff_lt]

/-- Where nothing can be drawn, nothing is taken from the source either. -/
lemma Stalls.choose (h : T.Stalls s) (src : Source) : T.choose s src = (none, src) := by
  rw [Table.choose, stalls_iff.mp h]
  rfl

/-- Everywhere else a transition is drawn. -/
lemma choose_isSome (h : ¬ T.Stalls s) :
    Draw.Always (fun t => t.isSome = true) (T.choose s) := by
  obtain ⟨w, hw⟩ := Option.ne_none_iff_exists'.mp (mt stalls_iff.mpr h)
  rw [Table.choose, hw]
  refine (Weighted.draw_positive hw).bind fun i hi => Draw.always_pure ?_
  obtain ⟨_, hi, -⟩ := hi
  rw [List.getElem?_map, Option.map_eq_some_iff] at hi
  obtain ⟨t, ht, -⟩ := hi
  rw [ht]
  rfl

end Table

/-! ### Idle steps -/

namespace Session

variable {T : Table} {s : Session}

lemma enter_of_outside (h : s.state = .outside) : s.enter = { s with state := .start } := by
  simp [enter, h]

lemma step_stalls (h : T.Stalls s.enter.state) (now : Time) (src : Source) :
    s.step T now src = ((s.enter, none), src) := by
  simp only [step, bind, StateT.bind, h.choose]
  rfl

lemma step_fires (h : ¬ T.Stalls s.enter.state) (now : Time) :
    Draw.Always (fun r => r.2.isSome = true) (s.step T now) := by
  refine (Table.choose_isSome h).bind fun t ht => ?_
  obtain ⟨t, rfl⟩ := Option.isSome_iff_exists.mp ht
  refine Draw.always_bind _ fun s' => ?_
  exact Draw.always_bind _ fun e => Draw.always_pure rfl

/-- **A step that fires nothing** is one where the row that it comes to has a weight that is
negative or no number, or none above zero. It draws nothing. It changes nothing either if the
session is anywhere; if it is nowhere, the session is at the start afterwards. -/
theorem step_idle (T : Table) (s : Session) (now : Time) (src : Source) :
    let r := s.step T now src
    (r.1.2 = none ↔ T.Stalls s.enter.state) ∧
    (r.1.2 = none → r.2 = src ∧
      (s.state ≠ .outside → r.1.1 = s) ∧
      (s.state = .outside → r.1.1 = { s with state := .start } ∧ r.1.1 ≠ s)) := by
  intro r
  by_cases hstall : T.Stalls s.enter.state
  · have hr : r = ((s.enter, none), src) := step_stalls hstall now src
    rw [hr]
    refine ⟨iff_of_true rfl hstall, fun _ => ⟨rfl, enter_of_inside, fun hs => ?_⟩⟩
    have hmoved : s.enter ≠ s := by
      intro h
      have hstate : s.enter.state = s.state := congrArg state h
      rw [enter_of_outside hs, hs] at hstate
      cases hstate
    exact ⟨enter_of_outside hs, hmoved⟩
  · have hfires : r.1.2.isSome = true := step_fires hstall now src
    rw [Option.isSome_iff_ne_none] at hfires
    exact ⟨iff_of_false hfires hstall, fun h => absurd h hfires⟩

/-- A session that is nowhere, where no row leads on from the start: no event, but the session has
been moved to the start. -/
theorem step_idle_enters :
    let T : Table := ⟨[(.search, [.go .exit .exit 1])]⟩
    let s : Session := { id := "s", user := "u" }
    let r := s.step T 5 (.seeded 1)
    r.1.2 = none ∧ r.2 = .seeded 1 ∧ r.1.1 = { s with state := .browsing } ∧ r.1.1 ≠ s := by
  decide +kernel

end Session

end ShopTraffic
