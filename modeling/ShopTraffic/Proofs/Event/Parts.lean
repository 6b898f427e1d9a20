import ShopTraffic.Proofs.Event.Wire

/-!
What an object has to be to stand for an event. Its members are spoken of as a text holds them,
before their meaning is known: names with their escapes, numerals as they are spelled. Each part of
an event is the only member with its name, and so are the two places of the move among the
attributes.
-/

namespace ShopTraffic

abbrev Members := List (List Piece × Tree)

namespace Tree

/-! ### Reading a list to its end -/

section Reading

variable {α β : Type} {f : α → Option β} {as as' : List α} {bs : List β}

lemma mapM_cons_eq_some {a : α} :
    (a :: as).mapM f = some bs ↔ ∃ b bs', f a = some b ∧ as.mapM f = some bs' ∧ bs = b :: bs' := by
  simp [List.mapM_cons, Option.bind_eq_some_iff, @eq_comm _ _ bs]

/-- What is read of a list in another order is the same in another order. -/
lemma mapM_perm (h : as.Perm as') (hbs : as.mapM f = some bs) :
    ∃ bs', as'.mapM f = some bs' ∧ bs.Perm bs' := by
  induction h generalizing bs with
  | nil => exact ⟨bs, hbs, .refl _⟩
  | cons a _ ih =>
    obtain ⟨b, cs, ha, hcs, rfl⟩ := mapM_cons_eq_some.mp hbs
    obtain ⟨cs', hcs', hperm⟩ := ih hcs
    exact ⟨b :: cs', mapM_cons_eq_some.mpr ⟨b, cs', ha, hcs', rfl⟩, hperm.cons b⟩
  | swap a a' as =>
    obtain ⟨b, cs, hb, hcs, rfl⟩ := mapM_cons_eq_some.mp hbs
    obtain ⟨b', ds, hb', hds, rfl⟩ := mapM_cons_eq_some.mp hcs
    refine ⟨b' :: b :: ds, ?_, .swap b' b ds⟩
    exact mapM_cons_eq_some.mpr ⟨b', _, hb', mapM_cons_eq_some.mpr ⟨b, ds, hb, hds, rfl⟩, rfl⟩
  | trans _ _ ih ih' =>
    obtain ⟨cs, hcs, hperm⟩ := ih hbs
    obtain ⟨ds, hds, hperm'⟩ := ih' hcs
    exact ⟨ds, hds, hperm.trans hperm'⟩

lemma mem_of_mapM (hbs : as.mapM f = some bs) {b : β} (hb : b ∈ bs) : ∃ a ∈ as, f a = some b := by
  induction as generalizing bs with
  | nil => obtain rfl := Option.some.inj hbs; cases hb
  | cons a as ih =>
    obtain ⟨b', cs, ha, hcs, rfl⟩ := mapM_cons_eq_some.mp hbs
    rcases List.mem_cons.mp hb with rfl | hb
    · exact ⟨a, List.mem_cons_self, ha⟩
    · obtain ⟨a', ha', hb⟩ := ih hcs hb
      exact ⟨a', List.mem_cons_of_mem a ha', hb⟩

lemma mem_mapM (hbs : as.mapM f = some bs) {a : α} (ha : a ∈ as) : ∃ b ∈ bs, f a = some b := by
  induction as generalizing bs with
  | nil => cases ha
  | cons a' as ih =>
    obtain ⟨b, cs, hb, hcs, rfl⟩ := mapM_cons_eq_some.mp hbs
    rcases List.mem_cons.mp ha with rfl | ha
    · exact ⟨b, List.mem_cons_self, hb⟩
    · obtain ⟨b', hb', hab⟩ := ih hcs ha
      exact ⟨b', List.mem_cons_of_mem b hb', hab⟩

end Reading

/-! ### Names -/

lemma named?_cons {m : List Piece × Tree} {ms : Members} {ns : List (String × Tree)} :
    named? (m :: ms) = some ns ↔ ∃ name ns',
      Piece.string? m.1 = some name ∧ named? ms = some ns' ∧ ns = (name, m.2) :: ns' := by
  rw [named?, mapM_cons_eq_some]
  constructor
  · rintro ⟨b, ns', hb, hns, rfl⟩
    obtain ⟨name, hname, hb⟩ := Option.bind_eq_some_iff.mp hb
    exact ⟨name, ns', hname, hns, by rw [Option.some.inj hb]⟩
  · rintro ⟨name, ns', hname, hns, rfl⟩
    exact ⟨_, ns', Option.bind_eq_some_iff.mpr ⟨name, hname, rfl⟩, hns, rfl⟩

def occurrences (name : String) (ms : Members) : Nat :=
  ms.countP fun m => Piece.string? m.1 = some name

lemma countP_named? {ms : Members} {ns : List (String × Tree)} (h : named? ms = some ns)
    (name : String) : ns.countP (·.1 = name) = occurrences name ms := by
  induction ms generalizing ns with
  | nil => obtain rfl := Option.some.inj h; rfl
  | cons m ms ih =>
    obtain ⟨k, ns', hk, hns, rfl⟩ := named?_cons.mp h
    simp [occurrences, List.countP_cons, ih hns, hk]

section Sole

variable {α : Type} {name : String} {ns ns' : List (String × α)} {x y : α}

lemma sole?_eq_some : sole? name ns = some x ↔ ns.filter (·.1 = name) = [(name, x)] := by
  rw [sole?]
  split
  · next m hm =>
    have hname : m.1 = name := by
      have hmem : m ∈ ns.filter (·.1 = name) := hm ▸ List.mem_singleton_self m
      simpa using (List.mem_filter.mp hmem).2
    subst hname
    rw [hm]
    exact ⟨fun h => by rw [← Option.some.inj h], fun h => by rw [List.singleton_inj.mp h]⟩
  · next hne =>
    exact ⟨fun h => absurd h.symm (Option.some_ne_none x), fun h => absurd h (hne _)⟩

lemma sole?_perm (h : ns.Perm ns') (name : String) : sole? name ns' = sole? name ns := by
  have hsome : ∀ {ns ns' : List (String × α)} {x : α}, ns.Perm ns' → sole? name ns = some x →
      sole? name ns' = some x := fun h hx => by
    rw [sole?_eq_some] at hx ⊢
    have hf := h.filter (·.1 = name)
    rw [hx] at hf
    exact List.perm_singleton.mp hf.symm
  exact Option.ext fun x => ⟨hsome h.symm, hsome h⟩

/-- Another value may stand in the place of the only one. -/
lemma sole?_replace (hx : sole? name ((name, x) :: ns) = some y) (z : α) :
    y = x ∧ sole? name ((name, z) :: ns) = some z := by
  rw [sole?_eq_some, List.filter_cons_of_pos (by simp)] at hx ⊢
  obtain ⟨hy, hnone⟩ := List.cons.inj hx
  exact ⟨(congrArg Prod.snd hy).symm, by rw [hnone]⟩

lemma mem_of_sole? (hx : sole? name ns = some x) : (name, x) ∈ ns := by
  have hmem : (name, x) ∈ ns.filter (·.1 = name) := by
    rw [sole?_eq_some.mp hx]
    exact List.mem_singleton_self _
  exact (List.mem_filter.mp hmem).1

lemma eq_of_sole? (hx : sole? name ns = some x) (hy : (name, y) ∈ ns) : y = x := by
  have hmem : (name, y) ∈ ns.filter (·.1 = name) := List.mem_filter.mpr ⟨hy, by simp⟩
  rw [sole?_eq_some.mp hx] at hmem
  exact congrArg Prod.snd (List.mem_singleton.mp hmem)

lemma count_of_sole? (hx : sole? name ns = some x) : ns.countP (·.1 = name) = 1 := by
  rw [List.countP_eq_length_filter, sole?_eq_some.mp hx]
  rfl

end Sole

/-! ### What stands for an event -/

def further? (ns : List (String × Tree)) : Option (List (String × Json)) :=
  (ns.filter fun m => !Event.isReserved m.1).mapM fun m => do
    return (m.1, (← value? attributeDepth m.2))

/-- The attributes, under these names, are those of the event. -/
structure Describes (ns : List (String × Tree)) (e : Event) : Prop where
  state : ∃ t, sole? "state" ns = some t ∧ t.state? = some e.state
  previous : ∃ t, sole? "prev_state" ns = some t ∧ t.state? = some e.previous
  further : ∃ fs, further? ns = some fs ∧ e.extra = Fields.ofList fs

structure EventParts.Describe (p : EventParts) (e : Event) : Prop where
  id : p.id.string? = some e.id
  action : p.action.action? = some e.action
  time : p.time.time? = some e.time
  user : p.user.string? = some e.user
  session : p.session.string? = some e.session
  attributes : ∃ as ns, p.attributes = .record as ∧ named? as = some ns ∧ Describes ns e

/-- The parts are the only members with their names. -/
structure EventParts.Sole (p : EventParts) (ns : List (String × Tree)) : Prop where
  id : sole? "event_id" ns = some p.id
  action : sole? "event_type" ns = some p.action
  time : sole? "event_ts" ns = some p.time
  user : sole? "user_id" ns = some p.user
  session : sole? "session_id" ns = some p.session
  attributes : sole? "attributes" ns = some p.attributes

variable {t : Tree} {ms ms' : Members} {e : Event} {p : EventParts}

lemma attributes?_eq_some {st pr : State} {fs : Fields} :
    t.attributes? = some (st, pr, fs) ↔ ∃ as ns, t = .record as ∧ named? as = some ns ∧
      (∃ u, sole? "state" ns = some u ∧ u.state? = some st) ∧
      (∃ u, sole? "prev_state" ns = some u ∧ u.state? = some pr) ∧
      ∃ extra, further? ns = some extra ∧ fs = Fields.ofList extra := by
  constructor
  · intro h
    rw [attributes?.eq_def] at h
    split at h
    · next as =>
      simp only [Option.bind_eq_bind, Option.bind_eq_some_iff] at h
      obtain ⟨ns, hns, u, hu, st', hst, u', hu', pr', hpr, extra, hextra, h⟩ := h
      obtain ⟨rfl, rfl, rfl⟩ : st' = st ∧ pr' = pr ∧ Fields.ofList extra = fs := by
        simpa using h
      exact ⟨as, ns, rfl, hns, ⟨u, hu, hst⟩, ⟨u', hu', hpr⟩, extra, hextra, rfl⟩
    · cases h
  · rintro ⟨as, ns, rfl, hns, ⟨u, hu, hst⟩, ⟨u', hu', hpr⟩, extra, hextra, rfl⟩
    simp only [further?, Option.bind_eq_bind] at hextra
    simp only [attributes?, hns, hu, hst, hu', hpr, Option.bind_eq_bind, Option.bind_some, hextra]
    rfl

lemma event?_eq_some : t.event? = some e ↔ ∃ p, t.eventParts? = some p ∧ p.Describe e := by
  constructor
  · intro h
    simp only [event?, Option.bind_eq_bind, Option.bind_eq_some_iff] at h
    obtain ⟨p, hp, ⟨st, pr, fs⟩, hattributes, id, hid, action, ha, time, ht, user, hu, session, hs,
      h⟩ := h
    obtain rfl := Option.some.inj h
    obtain ⟨as, ns, hr, hns, hst, hpr, hextra⟩ := attributes?_eq_some.mp hattributes
    exact ⟨p, hp, hid, ha, ht, hu, hs, as, ns, hr, hns, hst, hpr, hextra⟩
  · rintro ⟨p, hp, h⟩
    obtain ⟨as, ns, hr, hns, hst, hpr, hextra⟩ := h.attributes
    have hattributes := attributes?_eq_some.mpr ⟨as, ns, hr, hns, hst, hpr, hextra⟩
    simp [event?, hp, hattributes, h.id, h.action, h.time, h.user, h.session]

lemma eventParts?_record : (record ms).eventParts? = some p ↔
    ∃ ns, named? ms = some ns ∧ p.Sole ns := by
  constructor
  · intro h
    simp only [eventParts?, Option.bind_eq_bind, Option.bind_eq_some_iff] at h
    obtain ⟨ns, hns, id, hid, action, ha, time, ht, user, hu, session, hs, attributes, has, h⟩ := h
    obtain rfl := Option.some.inj h
    exact ⟨ns, hns, hid, ha, ht, hu, hs, has⟩
  · rintro ⟨ns, hns, h⟩
    simp [eventParts?, hns, h.id, h.action, h.time, h.user, h.session, h.attributes]

/-- **What the members of an object have to be** for it to stand for an event. -/
lemma event?_record : (record ms).event? = some e ↔
    ∃ (p : EventParts) (ns : List (String × Tree)),
      named? ms = some ns ∧ p.Sole ns ∧ p.Describe e := by
  rw [event?_eq_some]
  constructor
  · rintro ⟨p, hp, he⟩
    obtain ⟨ns, hns, hsole⟩ := eventParts?_record.mp hp
    exact ⟨p, ns, hns, hsole, he⟩
  · rintro ⟨p, ns, hns, hsole, he⟩
    exact ⟨p, eventParts?_record.mpr ⟨ns, hns, hsole⟩, he⟩

end Tree

end ShopTraffic
