import Mathlib.Algebra.BigOperators.Group.List.Basic
import Mathlib.Algebra.GroupWithZero.Nat
import Mathlib.Data.List.Perm.Basic
import ShopTraffic.Metrics.Counters

/-!
Counts that are kept under keys. One more under a key changes nothing under the others, so what is
counted under a key is told by how often the key was used, and all keys together hold as much as
there were uses. States have different names, actions too, and no two moves share a key.

Many who count are the entries of a list. When one entry changes, what is counted over all entries
changes by the difference.
-/

namespace ShopTraffic

/-! ### One entry of a list -/

section Entries

variable {α : Type} {xs : List α} {k : Nat} {a : α} (h : xs[k]? = some a)
include h

lemma sum_map_listSet {M : Type} [AddCommMonoid M] (f : α → M) (x : α) :
    ((xs.set k x).map f).sum + f a = (xs.map f).sum + f x := by
  obtain ⟨hk, rfl⟩ := List.getElem?_eq_some_iff.mp h
  have hold := ((List.getElem_cons_eraseIdx_perm hk).map f).sum_eq
  have hnew := ((List.set_perm_cons_eraseIdx hk x).map f).sum_eq
  rw [List.map_cons, List.sum_cons] at hold hnew
  rw [hnew, ← hold]
  ac_rfl

lemma countP_listSet (f : α → Bool) (x : α) :
    (xs.set k x).countP f + (f a).toNat = xs.countP f + (f x).toNat := by
  obtain ⟨hk, rfl⟩ := List.getElem?_eq_some_iff.mp h
  have hold := (List.getElem_cons_eraseIdx_perm hk).countP_eq f
  have hnew := (List.set_perm_cons_eraseIdx hk x).countP_eq f
  have hite : ∀ b : Bool, (if b then 1 else 0) = b.toNat := by decide
  rw [List.countP_cons, hite] at hold hnew
  omega

end Entries

/-! ### One more under a key -/

lemma getElem?_tally (m : Std.TreeMap String Nat) (key k : String) :
    (tally m key)[k]? = if key = k then some (m.getD k 0 + 1) else m[k]? := by
  simp only [tally, Std.TreeMap.getElem?_insert, Std.LawfulEqOrd.compare_eq_iff_eq]
  split
  · next h => rw [h]
  · rfl

lemma getD_tally (m : Std.TreeMap String Nat) (key k : String) :
    (tally m key).getD k 0 = m.getD k 0 + if key = k then 1 else 0 := by
  simp only [tally, Std.TreeMap.getD_insert, Std.LawfulEqOrd.compare_eq_iff_eq]
  by_cases h : key = k
  · simp [h]
  · simp [h]

def total (m : Std.TreeMap String Nat) : Nat := m.foldl (fun n _ c => n + c) 0

lemma total_eq (m : Std.TreeMap String Nat) : total m = (m.toList.map (·.2)).sum := by
  have h : ∀ (es : List (String × Nat)) (n : Nat),
      es.foldl (fun n e => n + e.2) n = n + (es.map (·.2)).sum := by
    intro es
    induction es with
    | nil => simp
    | cons e es ih => intro n; simp [ih, Nat.add_assoc]
  rw [total, Std.TreeMap.foldl_eq_foldl_toList, h, Nat.zero_add]

lemma nodup_toList (m : Std.TreeMap String Nat) : m.toList.Nodup :=
  m.distinct_keys_toList.imp fun h e => h (by rw [e]; exact Std.ReflCmp.compare_self)

/-- What is counted under one key, and what is counted under the others. -/
lemma total_split (m : Std.TreeMap String Nat) (key : String) :
    total m = m.getD key 0 + ((m.toList.filter (¬key == ·.1)).map (·.2)).sum := by
  rw [total_eq, Std.TreeMap.getD_eq_getD_getElem?]
  cases h : m[key]? with
  | none =>
    have hall : m.toList.filter (¬key == ·.1) = m.toList := by
      refine List.filter_eq_self.mpr fun e he => ?_
      have hk : key ≠ e.1 := by
        rintro rfl
        rw [Std.TreeMap.mem_toList_iff_getElem?_eq_some.mp he] at h
        cases h
      simpa using hk
    rw [hall]
    exact (Nat.zero_add _).symm
  | some n =>
    have hsplit : m.toList.Perm ((key, n) :: m.toList.filter (¬key == ·.1)) := by
      refine (List.perm_ext_iff_of_nodup (nodup_toList m) ?_).mpr fun ⟨k, v⟩ => ?_
      · exact List.nodup_cons.mpr ⟨by simp, (nodup_toList m).filter _⟩
      · by_cases hk : key = k
        · subst hk
          rw [Std.TreeMap.mem_toList_iff_getElem?_eq_some, h]
          simpa using eq_comm
        · simp [hk, Ne.symm hk]
    exact (hsplit.map _).sum_eq

/-- **Every use of a key counts once.** -/
lemma total_tally (m : Std.TreeMap String Nat) (key : String) :
    total (tally m key) = total m + 1 := by
  have hnew : (tally m key).toList.Perm
      ((key, m.getD key 0 + 1) :: m.toList.filter (¬key == ·.1)) := Std.TreeMap.toList_insert_perm
  rw [total_eq, (hnew.map _).sum_eq, List.map_cons, List.sum_cons, total_split m key]
  omega

/-! ### Names and keys -/

lemma Action.name_inj {a a' : Action} (h : a.name = a'.name) : a = a' := by
  revert h
  cases a <;> cases a' <;> decide

lemma State.name_inj {s s' : State} (h : s.name = s'.name) : s = s' := by
  revert h
  cases s <;> cases s' <;> decide

/-- No name of a state has an arrow in it. -/
lemma State.arrow_notMem_name (s : State) : '>' ∉ s.name.toList := by
  cases s <;> decide

/-- **Different moves are counted under different keys.** -/
lemma transitionKey_inj {p q p' q' : State} (h : transitionKey p q = transitionKey p' q') :
    p = p' ∧ q = q' := by
  have hl : (p.name.toList ++ [' ', '-']) ++ '>' :: (' ' :: q.name.toList) =
      (p'.name.toList ++ [' ', '-']) ++ '>' :: (' ' :: q'.name.toList) := by
    have hs : p.name ++ " -> " ++ q.name = p'.name ++ " -> " ++ q'.name := h
    simpa [String.toList_append] using congrArg String.toList hs
  have hp : '>' ∉ p.name.toList ++ [' ', '-'] := by simp [p.arrow_notMem_name]
  have hq : '>' ∉ ' ' :: q.name.toList := by simp [q.arrow_notMem_name]
  obtain ⟨h₁, -, h₂⟩ := (List.append_cons_inj_of_notMem hp hq).mp hl
  exact ⟨State.name_inj (String.toList_inj.mp (List.append_cancel_right h₁)),
    State.name_inj (String.toList_inj.mp (List.cons.inj h₂).2)⟩

/-! ### Single counts -/

namespace Snapshot

variable (s : Snapshot)

lemma eventsOf_tally (a a' : Action) :
    eventsOf { s with byAction := tally s.byAction a.name } a' =
      s.eventsOf a' + if a = a' then 1 else 0 := by
  simp only [eventsOf, getD_tally]
  congr 2
  exact propext ⟨Action.name_inj, congrArg _⟩

lemma transitionCount_tally (p q p' q' : State) :
    transitionCount { s with transitions := tally s.transitions (transitionKey p q) } p' q' =
      s.transitionCount p' q' + if p = p' ∧ q = q' then 1 else 0 := by
  simp only [transitionCount, getD_tally]
  congr 2
  exact propext ⟨transitionKey_inj, fun ⟨hp, hq⟩ => by rw [hp, hq]⟩

end Snapshot

end ShopTraffic
