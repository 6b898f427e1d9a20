import ShopTraffic.Proofs.Random.Always
import ShopTraffic.Random.Uniform

/-!
An integer that is drawn below a bound lies below it, however often raw words are refused; so what
is drawn from a list is one of its entries.
-/

namespace ShopTraffic.Random.Draw

lemma raw_lt (k : IntKind) : Always (fun n => n < 2 ^ k.rawBits) (raw k) := by
  unfold raw
  split
  · next h =>
    rw [h]
    exact always_bind _ fun w => always_pure w.toNat_lt
  · next h =>
    have h32 : k.rawBits = 32 := by cases k <;> first | rfl | exact absurd rfl h
    rw [h32]
    exact always_bind _ fun w => always_pure w.toNat_lt

/-- **What is drawn below a bound lies below it.** -/
lemma scaled_lt (k : IntKind) {n : Nat} (hn : 0 < n) (zone fuel : Nat) :
    Always (· < n) (scaled k n zone fuel) := by
  have hbelow : ∀ p < 2 ^ k.rawBits, p * n / 2 ^ k.rawBits < n := by
    intro p hp
    rw [Nat.div_lt_iff_lt_mul (Nat.two_pow_pos _), Nat.mul_comm n]
    exact Nat.mul_lt_mul_of_pos_right hp hn
  induction fuel with
  | zero => exact (raw_lt k).bind fun p hp => always_pure (hbelow p hp)
  | succ fuel ih =>
    exact (raw_lt k).bind fun p hp => Always.ite (fun _ => always_pure (hbelow p hp)) fun _ => ih

lemma below_lt {bound : Nat} (h : 0 < bound) : Always (· < bound) (below bound) := by
  unfold below
  rw [if_neg (by omega)]
  exact scaled_lt _ h _ _

/-- **What is chosen from a list is in it.** -/
lemma choose_mem {α : Type} {items : List α} (h : items ≠ []) :
    Always (fun found => ∃ a ∈ items, found = some a) (choose items) := by
  have hlen : 0 < items.length := List.length_pos_iff.mpr h
  unfold choose index
  rw [if_neg (by omega)]
  refine ((scaled_lt _ hlen _ _).bind fun i hi => always_pure ⟨i, hi, rfl⟩ :
    Always (fun i? => ∃ i < items.length, i? = some i) _).bind fun i? ⟨i, hi, hsome⟩ => ?_
  rw [hsome]
  exact always_pure ⟨_, List.getElem_mem hi, List.getElem?_eq_getElem hi⟩

end ShopTraffic.Random.Draw
