import Mathlib.Tactic.Common
import ShopTraffic.Queue

/-!
The items of a queue under its operations. Granting and releasing slots moves no item, and the
length that a queue keeps is the number of its items.
-/

namespace ShopTraffic.Queue

variable {α : Type}

/-- The length that is kept is the number of items. -/
def Counted (q : Queue α) : Prop := q.length = q.items.length

@[simp] lemma items_push (q : Queue α) (a : α) : (q.push a).items = q.items ++ [a] := by
  simp [items, push]

@[simp] lemma items_wait (q : Queue α) : q.wait.items = q.items := rfl

@[simp] lemma items_deliver (q : Queue α) (a : α) : (q.deliver a).items = q.items ++ [a] := by
  simp [items, deliver, push]

@[simp] lemma items_abandon (q : Queue α) : q.abandon.items = q.items := by
  unfold abandon
  split <;> rfl

@[simp] lemma items_close (q : Queue α) : q.close.items = q.items := rfl

@[simp] lemma items_clear (q : Queue α) : q.clear.items = [] := rfl

lemma release_eq (q : Queue α) :
    q.release.items = q.items ∧ q.release.length = q.length ∧ q.release.closed = q.closed := by
  unfold release
  split <;> exact ⟨rfl, rfl, rfl⟩

lemma Counted.push {q : Queue α} (h : q.Counted) (a : α) : (q.push a).Counted := by
  unfold Counted at h ⊢
  rw [items_push, List.length_append, ← h]
  rfl

lemma Counted.deliver {q : Queue α} (h : q.Counted) (a : α) : (q.deliver a).Counted :=
  Counted.push (q := { q with granted := q.granted - 1 }) h a

lemma Counted.abandon {q : Queue α} (h : q.Counted) : q.abandon.Counted := by
  unfold Counted at h ⊢
  rw [items_abandon, ← h]
  unfold Queue.abandon
  split <;> rfl

lemma abandon_closed (q : Queue α) : q.abandon.closed = q.closed := by
  unfold abandon
  split <;> rfl

/-- Taking the oldest item out takes just that out. -/
lemma uncons_some {q q' : Queue α} {a : α} (h : q.uncons = some (a, q')) :
    q.items = a :: q'.items ∧ q'.length = q.length - 1 ∧ q'.closed = q.closed := by
  unfold uncons at h
  split at h
  · next front hf =>
    obtain ⟨rfl, rfl⟩ := Prod.mk.inj (Option.some.inj h)
    exact ⟨by simp [items, hf], rfl, rfl⟩
  · next hf =>
    split at h
    · next front hb =>
      obtain ⟨rfl, rfl⟩ := Prod.mk.inj (Option.some.inj h)
      exact ⟨by simp [items, hf, hb], rfl, rfl⟩
    · cases h

lemma pop_some {q q' : Queue α} {a : α} (h : q.pop = some (a, q')) :
    q.items = a :: q'.items ∧ q'.closed = q.closed ∧ (q.Counted → q'.Counted) := by
  obtain ⟨⟨b, q₁⟩, hu, he⟩ := Option.map_eq_some_iff.mp h
  obtain ⟨rfl, rfl⟩ := Prod.mk.inj he
  obtain ⟨hi, hl, hc⟩ := uncons_some hu
  obtain ⟨hi', hl', hc'⟩ := q₁.release_eq
  refine ⟨by rw [hi, hi'], hc'.trans hc, fun hq => ?_⟩
  unfold Counted at hq ⊢
  rw [hi', hl', hl, hq, hi]
  rfl

lemma pop_none {q : Queue α} (h : q.pop = none) : q.items = [] := by
  have hu : q.uncons = none := Option.map_eq_none_iff.mp h
  unfold uncons at hu
  split at hu
  · cases hu
  · next hf =>
    split at hu
    · cases hu
    · next hb => rw [items, hf, hb, List.append_nil]

end ShopTraffic.Queue
