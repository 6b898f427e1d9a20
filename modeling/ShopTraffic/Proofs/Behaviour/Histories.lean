import ShopTraffic.Proofs.Behaviour.Walks

/-!
What an event has to do with the events before it. A history grows at its end, so a property of
every event and its past is kept if the new event has it; and the last event of a kind is the new
one, or the one that it was before.
-/

namespace ShopTraffic

/-- Every event has the property, together with the events before it. -/
def Each (P : List Event → Event → Prop) (events : List Event) : Prop :=
  ∀ before e after, events = before ++ e :: after → P before e

/-- `last` is the last of the events that have the action, and `since` are those behind it. -/
structure LastOf (a : Action) (events : List Event) (last : Event) (since : List Event) :
    Prop where
  split : ∃ earlier, events = earlier ++ last :: since
  action : last.action = a
  others : ∀ e ∈ since, e.action ≠ a

variable {P : List Event → Event → Prop} {events since : List Event} {e last : Event} {a : Action}

lemma each_nil (P : List Event → Event → Prop) : Each P [] := by
  intro before e after h
  simp at h

lemma Each.concat (h : Each P events) (he : P events e) : Each P (events ++ [e]) := by
  intro before e' after hsplit
  rcases append_cons_of_concat hsplit with ⟨rfl, rfl⟩ | ⟨after', hsplit⟩
  · exact he
  · exact h before e' after' hsplit

lemma lastOf_concat (events : List Event) (h : e.action = a) : LastOf a (events ++ [e]) e [] :=
  ⟨⟨events, rfl⟩, h, nofun⟩

lemma LastOf.concat (h : LastOf a events last since) (he : e.action ≠ a) :
    LastOf a (events ++ [e]) last (since ++ [e]) where
  split := by
    obtain ⟨earlier, rfl⟩ := h.split
    exact ⟨earlier, by simp⟩
  action := h.action
  others x hx := by
    rcases List.mem_append.mp hx with hx | hx
    · exact h.others x hx
    · exact List.mem_singleton.mp hx ▸ he

/-- **There is one last event of a kind.** -/
lemma LastOf.unique {since' : List Event} {last' : Event} (h : LastOf a events last since)
    (h' : LastOf a events last' since') : last = last' ∧ since = since' := by
  obtain ⟨earlier, hsplit⟩ := h.split
  obtain ⟨earlier', hsplit'⟩ := h'.split
  rcases List.append_eq_append_iff.mp (hsplit.symm.trans hsplit') with ⟨t, -, ht⟩ | ⟨t, -, ht⟩
  · rcases t with _ | ⟨x, t⟩
    · exact List.cons.inj ht
    · have hmem : last' ∈ since := by simp [(List.cons.inj ht).2]
      exact absurd h'.action (h.others _ hmem)
  · rcases t with _ | ⟨x, t⟩
    · exact ⟨(List.cons.inj ht).1.symm, (List.cons.inj ht).2.symm⟩
    · have hmem : last ∈ since' := by simp [(List.cons.inj ht).2]
      exact absurd h.action (h'.others _ hmem)

end ShopTraffic
