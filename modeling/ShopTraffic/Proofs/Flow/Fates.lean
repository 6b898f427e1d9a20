import Mathlib.Algebra.BigOperators.Group.List.Basic
import Mathlib.Algebra.Group.Pi.Basic
import Mathlib.Algebra.Order.Group.Multiset
import Mathlib.Data.List.Perm.Basic
import ShopTraffic.Event
import ShopTraffic.Proofs.Metrics.Tallies

/-!
What becomes of events. An account tells for each fate which events have met it, each as often as it
has; so accounts of successive moves are added up.

Events that have been produced and have not met their last fate are in somebody's hands. The hands
are the entries of an array, and when one entry changes, what all hold changes by the difference.
-/

namespace ShopTraffic

inductive Fate
  | produced | sent | refused | published | failed | dropped
  deriving DecidableEq, Repr

abbrev Account := Fate → Multiset Event

def entry (f : Fate) (es : Multiset Event) : Account := fun g => if g = f then es else 0

@[simp] lemma entry_self (f : Fate) (es : Multiset Event) : entry f es f = es := if_pos rfl

lemma entry_other {f g : Fate} (h : g ≠ f) (es : Multiset Event) : entry f es g = 0 := if_neg h

lemma add_entry_other {f g : Fate} (h : g ≠ f) (a : Account) (es : Multiset Event) :
    (a + entry f es) g = a g := by
  rw [Pi.add_apply, entry_other h, add_zero]

/-- When one entry of an array changes, a sum over all entries changes by the difference. -/
lemma sum_map_set {α M : Type} [AddCommMonoid M] {f : α → M} {xs : Array α} {k : Nat} {a : α}
    (h : xs[k]? = some a) (x : α) :
    ((xs.set! k x).toList.map f).sum + f a = (xs.toList.map f).sum + f x := by
  rw [← Array.getElem?_toList] at h
  rw [Array.set!_eq_setIfInBounds, Array.toList_setIfInBounds]
  exact sum_map_listSet h f x

section Holdings

variable {α β : Type} (f : α → Multiset β)

def holdings (xs : Array α) : Multiset β := (xs.toList.map f).sum

variable {f}

lemma holdings_set {xs : Array α} {k : Nat} {a : α} (h : xs[k]? = some a) (x : α) :
    holdings f (xs.set! k x) + f a = holdings f xs + f x :=
  sum_map_set h x

lemma holdings_eq_zero {xs : Array α} (h : ∀ (k : Nat) (a : α), xs[k]? = some a → f a = 0) :
    holdings f xs = 0 := by
  unfold holdings
  refine List.sum_eq_zero fun s hs => ?_
  obtain ⟨a, ha, rfl⟩ := List.mem_map.mp hs
  obtain ⟨k, hk⟩ := List.mem_iff_getElem?.mp ha
  exact h k a (by rwa [← Array.getElem?_toList])

lemma holdings_replicate (n : Nat) {a : α} (h : f a = 0) :
    holdings f (Array.replicate n a) = 0 := by
  refine holdings_eq_zero fun k b hb => ?_
  rw [Array.getElem?_replicate] at hb
  split at hb
  · rwa [← Option.some.inj hb]
  · cases hb

/-- Entries that hold one item or none are counted by what all hold. -/
lemma card_holdings {xs : Array α} {p : α → Bool} (h : ∀ a ∈ xs, (f a).card = (p a).toNat) :
    (holdings f xs).card = xs.countP p := by
  obtain ⟨xs⟩ := xs
  unfold holdings
  rw [List.countP_toArray]
  induction xs with
  | nil => rfl
  | cons a xs ih =>
    have ha := h a (by simp)
    have ih := ih fun b hb => h b (by simp at hb ⊢; exact .inr hb)
    rw [List.map_cons, List.sum_cons, Multiset.card_add, ih, ha, List.countP_cons]
    cases p a <;> simp [add_comm]

end Holdings

end ShopTraffic
