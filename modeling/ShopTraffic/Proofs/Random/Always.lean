import Mathlib.Tactic.Common
import ShopTraffic.Random.Source

/-!
Properties that a draw has whatever its source is. They are put together along the parts of a
computation, and no keystream is looked at.
-/

namespace ShopTraffic.Random.Draw

/-- Whatever the source, what is drawn has the property. -/
def Always {α : Type} (P : α → Prop) (d : Draw α) : Prop := ∀ src, P (d src).1

variable {α β : Type} {P : α → Prop} {Q : β → Prop}

lemma always_pure {a : α} (h : P a) : Always P (pure a) := fun _ => h

lemma Always.bind {d : Draw α} {f : α → Draw β} (hd : Always P d)
    (hf : ∀ a, P a → Always Q (f a)) : Always Q (d >>= f) :=
  fun src => hf _ (hd src) (d src).2

lemma Always.imp {d : Draw α} {P' : α → Prop} (hd : Always P d) (h : ∀ a, P a → P' a) :
    Always P' d :=
  fun src => h _ (hd src)

/-- What follows a draw has the property whatever was drawn. -/
lemma always_bind (d : Draw α) {f : α → Draw β} (hf : ∀ a, Always Q (f a)) :
    Always Q (d >>= f) :=
  fun src => hf _ (d src).2

/-- What can be told of a computation from its first draw alone. -/
lemma bind_told {γ : Type} (d : Draw α) {f : α → Draw β} {g : β → γ} {h : α → γ}
    (hf : ∀ a, Always (fun b => g b = h a) (f a)) (src : Source) :
    g ((d >>= f) src).1 = h (d src).1 :=
  hf _ _

lemma Always.ite {c : Prop} [Decidable c] {d e : Draw α} (hd : c → Always P d)
    (he : ¬c → Always P e) : Always P (if c then d else e) := by
  split
  · exact hd ‹_›
  · exact he ‹_›

end ShopTraffic.Random.Draw
