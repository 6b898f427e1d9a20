import Mathlib.Data.List.Induction
import Mathlib.Logic.Relation
import ShopTraffic.Proofs.Behaviour.Moves

/-!
Walks through the behaviour model. The events of a visit form a walk if each of them goes on from
the ones before it, along a transition that can be drawn. Where a walk can go on to depends on where
the visitor is and on where the visitor came from; the two together are a place.
-/

namespace ShopTraffic

open Relation

/-- Where a list is cut that one element was added to: before this element, or earlier. -/
lemma append_cons_of_concat {α : Type} {l before after : List α} {x y : α}
    (h : l ++ [x] = before ++ y :: after) :
    (l = before ∧ x = y) ∨ ∃ after', l = before ++ y :: after' := by
  rcases List.eq_nil_or_concat after with rfl | ⟨after, z, rfl⟩
  · obtain ⟨hl, hx⟩ := List.append_inj' h rfl
    exact .inl ⟨hl, (List.cons.inj hx).1⟩
  · rw [List.concat_eq_append, ← List.cons_append, ← List.append_assoc] at h
    exact .inr ⟨after, (List.append_inj' h rfl).1⟩

def reachedBy (events : List Event) : State := (events.getLast?.map (·.state)).getD .start

/-- Where going back leads to after the given events: to where the last of them began. -/
def returnsTo (events : List Event) : State := (events.getLast?.map (·.previous)).getD .start

def cameFrom (events : List Event) : State := (events.getLast?.map (·.previous)).getD .outside

@[simp] lemma reachedBy_concat (events : List Event) (e : Event) :
    reachedBy (events ++ [e]) = e.state := by
  simp [reachedBy]

@[simp] lemma returnsTo_concat (events : List Event) (e : Event) :
    returnsTo (events ++ [e]) = e.previous := by
  simp [returnsTo]

@[simp] lemma cameFrom_concat (events : List Event) (e : Event) :
    cameFrom (events ++ [e]) = e.previous := by
  simp [cameFrom]

structure Place where
  state : State
  previous : State
  deriving DecidableEq

namespace Table

def Leads (T : Table) (a b : Place) : Prop :=
  ∃ t ∈ T.transitions a.state, t.possible = true ∧ b = ⟨t.next a.previous, a.state⟩

def Visits (T : Table) (a : Place) : Prop := ReflTransGen T.Leads ⟨.start, .outside⟩ a

/-- The event goes on from the ones before it, along a possible transition. -/
def GoesOn (T : Table) (before : List Event) (e : Event) : Prop :=
  e.previous = reachedBy before ∧
    ∃ t ∈ T.transitions e.previous, t.possible = true ∧ t.action = e.action ∧
      e.state = t.target.getD (returnsTo before)

def Walk (T : Table) (events : List Event) : Prop :=
  ∀ before e after, events = before ++ e :: after → T.GoesOn before e

variable {T : Table} {events before after : List Event} {e : Event}

lemma walk_nil (T : Table) : T.Walk [] := by
  intro before e after h
  simp at h

lemma Walk.concat (h : T.Walk events) (he : T.GoesOn events e) : T.Walk (events ++ [e]) := by
  intro before e' after hsplit
  rcases append_cons_of_concat hsplit with ⟨rfl, rfl⟩ | ⟨after', hsplit⟩
  · exact he
  · exact h before e' after' hsplit

lemma Walk.init (h : T.Walk (events ++ [e])) : T.Walk events ∧ T.GoesOn events e :=
  ⟨fun before e' after hsplit => h before e' (after ++ [e]) (by simp [hsplit]),
    h events e [] rfl⟩

/-- What comes later does not matter to a walk. -/
lemma Walk.upTo (h : T.Walk (before ++ e :: after)) : T.Walk (before ++ [e]) := by
  intro before' e' after' hsplit
  refine h before' e' (after' ++ after) ?_
  rw [← List.cons_append, ← List.append_assoc, ← hsplit, List.append_assoc, List.singleton_append]

/-- Along transitions that lead nobody outside, nobody ever comes there. -/
lemma Walk.inside (h : T.Walk events) (hT : T.LeadsInside) :
    (∀ e ∈ events, e.state ≠ .outside ∧ e.previous ≠ .outside) := by
  induction events using List.reverseRecOn with
  | nil => exact fun e he => absurd he List.not_mem_nil
  | append_singleton events e ih =>
    obtain ⟨hw, hprevious, t, hmem, -, -, hstate⟩ := h.init
    have hlast : reachedBy events ≠ .outside ∧ returnsTo events ≠ .outside := by
      rcases List.eq_nil_or_concat events with rfl | ⟨before, x, rfl⟩
      · exact ⟨State.noConfusion, State.noConfusion⟩
      · have hx := ih hw x (by simp)
        simpa using hx
    intro x hx
    rcases List.mem_append.mp hx with hx | hx
    · exact ih hw x hx
    · rw [List.mem_singleton.mp hx]
      refine ⟨?_, hprevious ▸ hlast.1⟩
      rw [hstate]
      cases htarget : t.target with
      | none => exact hlast.2
      | some s =>
        rintro rfl
        exact hT _ t hmem htarget

lemma Walk.backTo_cameFrom (h : T.Walk events) (hT : T.LeadsInside) :
    State.backTo (cameFrom events) = returnsTo events := by
  rcases List.eq_nil_or_concat events with rfl | ⟨before, e, rfl⟩
  · rfl
  · have hinside := h.inside hT e (by simp)
    rw [List.concat_eq_append, cameFrom_concat, returnsTo_concat]
    exact if_neg hinside.2

/-- **A walk leads from place to place.** -/
lemma Walk.visits (h : T.Walk events) (hT : T.LeadsInside) :
    T.Visits ⟨reachedBy events, cameFrom events⟩ := by
  induction events using List.reverseRecOn with
  | nil => exact .refl
  | append_singleton events e ih =>
    obtain ⟨hw, hprevious, t, hmem, hpossible, -, hstate⟩ := h.init
    rw [hprevious] at hmem
    refine (ih hw).tail ⟨t, hmem, hpossible, ?_⟩
    rw [reachedBy_concat, cameFrom_concat, hstate, hprevious, Transition.next,
      hw.backTo_cameFrom hT]

/-- **Nothing follows an exit**, and the exit events are those that lead to the exit. -/
lemma Walk.exits (h : T.Walk events) (hT : T.ExitsOnly) :
    (∀ before e after, events = before ++ e :: after → e.action = .exit → after = []) ∧
      ∀ e ∈ events, e.action = .exit ↔ e.state = .exit := by
  have hstays : ∀ before e after, events = before ++ e :: after → e.previous ≠ .exit := by
    intro before e after hsplit hx
    obtain ⟨-, t, hmem, -⟩ := h before e after hsplit
    rw [hx, hT.ends] at hmem
    exact absurd hmem List.not_mem_nil
  have hexit : ∀ before e after, events = before ++ e :: after →
      (e.action = .exit ↔ e.state = .exit) := by
    intro before e after hsplit
    obtain ⟨-, t, hmem, -, haction, hstate⟩ := h before e after hsplit
    rw [← haction, hT.leaves _ t hmem, hstate]
    cases t.target with
    | some s => simp
    | none =>
      refine ⟨nofun, fun hx => ?_⟩
      rcases List.eq_nil_or_concat before with rfl | ⟨earlier, x, rfl⟩
      · exact State.noConfusion hx
      · rw [List.concat_eq_append, Option.getD_none, returnsTo_concat] at hx
        exact absurd hx (hstays earlier x (e :: after) (by simp [hsplit]))
  refine ⟨fun before e after hsplit hx => ?_, fun e he => ?_⟩
  · cases after with
    | nil => rfl
    | cons x after =>
      have hsplit' : events = (before ++ [e]) ++ x :: after := by simp [hsplit]
      obtain ⟨hprevious, -⟩ := h _ _ _ hsplit'
      rw [reachedBy_concat, (hexit _ _ _ hsplit).mp hx] at hprevious
      exact absurd hprevious (hstays _ _ _ hsplit')
  · obtain ⟨before, after, hsplit⟩ := List.append_of_mem he
    exact hexit before e after hsplit

end Table

end ShopTraffic
