import Mathlib.Tactic.Lemma

/-!
Runs of anything that goes from state to state by acts. What is said of a single act in a single
state is carried over to the acts of a run, each of them in the state in which it is made.
-/

namespace ShopTraffic

variable {σ α β : Type} (act : σ → α → σ)

/-- The condition holds at every act of a run. -/
def Along (C : σ → α → Prop) (s : σ) : List α → Prop
  | [] => True
  | a :: acts => C s a ∧ Along C (act s a) acts

/-- What the acts of a run yield, one after the other. -/
def yields (f : σ → α → List β) (s : σ) : List α → List β
  | [] => []
  | a :: acts => f s a ++ yields f (act s a) acts

lemma yields_append (f : σ → α → List β) (s : σ) (acts more : List α) :
    yields act f s (acts ++ more) =
      yields act f s acts ++ yields act f (acts.foldl act s) more := by
  induction acts generalizing s with
  | nil => rfl
  | cons a acts ih => simp [yields, ih]

/-- **A log that grows at each act by what the act yields** grows in a run by what the run
yields. -/
lemma foldl_log {f : σ → α → List β} {log : σ → List β}
    (h : ∀ s a, log (act s a) = log s ++ f s a) (s : σ) (acts : List α) :
    log (acts.foldl act s) = log s ++ yields act f s acts := by
  induction acts generalizing s with
  | nil => simp [yields]
  | cons a acts ih => rw [List.foldl_cons, ih, h, yields, List.append_assoc]

end ShopTraffic
