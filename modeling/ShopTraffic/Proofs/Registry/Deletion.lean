import ShopTraffic.Proofs.Registry.Growth

/-!
Deleting with any arguments. A deletion is told a visitor and a session, and looks at the two tables
one after the other: the session goes if it is registered, and the visitor's entry goes if it leads
there. Nobody checks that the session is one of that visitor.

So a deletion is all or nothing as long as no session is deleted for a visitor that it does not
belong to. Such a deletion takes the session and leaves the entry of its own visitor, which leads
nowhere from then on; the registry finds itself inconsistent until that visitor is looked up again
or the deletion is made once more for the right visitor. Then it takes the entry and answers that
there was nothing to delete.
-/

namespace ShopTraffic.Registry

/-! ### All or nothing -/

/-- The session and the entry that leads to it are gone, and all else is there. -/
structure LosesWhole (r r' : Registry) (id : String) : Prop where
  registered : r.sessions[id]? ≠ none
  sessions : ∀ id' : String, r'.sessions[id']? = if id = id' then none else r.sessions[id']?
  users : ∃ v, r.users[v]? = some id ∧
    ∀ u : String, r'.users[u]? = if v = u then none else r.users[u]?

structure SameTables (r r' : Registry) : Prop where
  sessions : ∀ id : String, r'.sessions[id]? = r.sessions[id]?
  users : ∀ u : String, r'.users[u]? = r.users[u]?

/-- A deletion is all or nothing, and its answer tells which. -/
def DeletesWhole (r : Registry) (user id : String) : Prop :=
  match r.delete user id with
  | (r', true) => r.LosesWhole r' id
  | (r', false) => r.SameTables r'

/-! ### Registries in the hands of any caller -/

/-- Anything may be deleted for anyone, but no handle is used to write an id or the name of a
visitor. -/
def Tolerates (r : Registry) : Op → Prop
  | .obtain _ _ | .sweep _ | .delete _ _ => True
  | .write n change => r.Allowed (.write n change)

/-- The registries that come of an empty one, whatever is deleted. -/
inductive Exposed (ttl : Time) : Registry → Prop
  | empty : Exposed ttl { ttl }
  | perform {r : Registry} (op : Op) (h : Exposed ttl r) (ht : r.Tolerates op) :
      Exposed ttl (r.perform op)

/-- What is left of the lockstep: an entry leads to a session that was created for its visitor, but
need not be registered any more. -/
structure Traced (r : Registry) : Prop where
  numbered : ∀ n < r.created.size, ∃ user now, (r.session n).id = idText user now (n + 1)
  named : ∀ {id n}, r.sessions[id]? = some n → n < r.created.size ∧ (r.session n).id = id
  linked : ∀ {id n}, r.sessions[id]? = some n → r.users[(r.session n).user]? = some id
  traced : ∀ {user id}, r.users[user]? = some id →
    ∃ n < r.created.size, (r.session n).id = id ∧ (r.session n).user = user

variable {r : Registry} {user id : String} {n : Nat}

lemma Sound.traced (h : r.Sound) : r.Traced where
  numbered := h.numbered
  named := h.named
  linked := h.linked
  traced hu := by
    obtain ⟨n, hn, hs⟩ := h.led hu
    exact ⟨n, (h.named hn).1, (h.named hn).2, hs⟩

/-- A registry that finds itself consistent is in lockstep. -/
lemma Traced.sound (h : r.Traced) (hc : r.isConsistent = true) : r.Sound := by
  simp only [Registry.isConsistent, Bool.and_eq_true, decide_eq_true_eq, List.all_eq_true] at hc
  refine ⟨h.numbered, h.named, h.linked, fun {user id} hu => ?_, hc.1⟩
  have he := hc.2 (user, id) (Std.HashMap.mem_toList_iff_getElem?_eq_some.mpr hu)
  dsimp only at he
  split at he
  · next n hn => exact ⟨n, hn, of_decide_eq_true he⟩
  · cases he

/-- An entry that leads nowhere is an inconsistency. -/
lemma Traced.inconsistent (h : r.Traced) (hu : r.users[user]? = some id)
    (hn : r.sessions[id]? = none) : r.isConsistent = false := by
  refine Bool.eq_false_iff.mpr fun hc => ?_
  obtain ⟨m, hm, -⟩ := (h.sound hc).led hu
  cases hn.symm.trans hm

/-- An entry leads to a registered session only if that is one of its visitor. -/
lemma Traced.user_eq (h : r.Traced) (hn : r.sessions[id]? = some n)
    (hu : r.users[user]? = some id) : (r.session n).user = user := by
  obtain ⟨hlt, hid⟩ := h.named hn
  obtain ⟨m, hm, hmid, hs⟩ := h.traced hu
  obtain ⟨u, t, hnt⟩ := h.numbered n hlt
  obtain ⟨v, w, hmw⟩ := h.numbered m hm
  have := idText_inj (hnt.symm.trans (hid.trans (hmid.symm.trans hmw)))
  obtain rfl : n = m := by omega
  exact hs

/-! ### What a deletion does -/

lemma sessions_erase (r : Registry) (id id' : String) :
    (r.sessions.erase id)[id']? = if id = id' then none else r.sessions[id']? := by
  simp [Std.HashMap.getElem?_erase]

/-- The four cases of a deletion. -/
lemma Traced.delete_cases (h : r.Traced) (user id : String) :
    (∃ n, r.sessions[id]? = some n ∧ (r.session n).user = user ∧
      r.delete user id = (r.without id n, true)) ∨
    (∃ n, r.sessions[id]? = some n ∧ (r.session n).user ≠ user ∧
      r.delete user id = ({ r with sessions := r.sessions.erase id }, true)) ∨
    (r.sessions[id]? = none ∧ r.users[user]? ≠ some id ∧
      r.delete user id = ({ r with sessions := r.sessions.erase id }, false)) ∨
    (r.sessions[id]? = none ∧ r.users[user]? = some id ∧
      r.delete user id =
        ({ r with sessions := r.sessions.erase id, users := r.users.erase user }, false)) := by
  have hk : r.sessions.contains id = r.sessions[id]?.isSome :=
    Std.HashMap.contains_eq_isSome_getElem?
  rcases hn : r.sessions[id]? with _ | n
  · by_cases hu : r.users[user]? = some id
    · exact .inr (.inr (.inr ⟨rfl, hu, by simp [delete, unlink, hk, hn, hu]⟩))
    · exact .inr (.inr (.inl ⟨rfl, hu, by simp [delete, unlink, hk, hn, hu]⟩))
  · by_cases hs : (r.session n).user = user
    · have hu := h.linked hn
      rw [hs] at hu
      exact .inl ⟨n, rfl, hs, by simp [delete, unlink, hk, hn, hu, without, hs]⟩
    · have hu : r.users[user]? ≠ some id := fun hu => hs (h.user_eq hn hu)
      exact .inr (.inl ⟨n, rfl, hs, by simp [delete, unlink, hk, hn, hu]⟩)

/-! ### What the operations keep -/

lemma Traced.update (h : r.Traced) {f : Session → Session} (hf : r.Allowed (.write n f)) :
    (r.update n f).Traced where
  numbered m hm := by
    rw [session_update_of_kept Session.id hf.1]
    exact h.numbered m (by simpa using hm)
  named hm := by
    rw [session_update_of_kept Session.id hf.1]
    simpa using h.named hm
  linked hm := by
    rw [session_update_of_kept Session.user hf.2]
    exact h.linked hm
  traced hu := by
    obtain ⟨m, hm, hid, hs⟩ := h.traced hu
    exact ⟨m, by simpa using hm, (session_update_of_kept Session.id hf.1 m).trans hid,
      (session_update_of_kept Session.user hf.2 m).trans hs⟩

/-- Sessions and entries may be lost, if no session that is kept loses its entry. -/
lemma Traced.lose (h : r.Traced) {r' : Registry} (hc : r'.created = r.created)
    (hs : ∀ {id : String} {n : Nat}, r'.sessions[id]? = some n →
      r.sessions[id]? = some n ∧ r'.users[(r.session n).user]? = r.users[(r.session n).user]?)
    (hu : ∀ {user id : String}, r'.users[user]? = some id → r.users[user]? = some id) :
    r'.Traced := by
  have hsession : r'.session = r.session := funext fun n => by rw [session, session, hc]
  refine ⟨?_, fun hn => ?_, fun hn => ?_, fun hv => ?_⟩
  · rw [hc, hsession]
    exact h.numbered
  · rw [hc, hsession]
    exact h.named (hs hn).1
  · rw [hsession, (hs hn).2]
    exact h.linked (hs hn).1
  · rw [hc, hsession]
    exact h.traced (hu hv)

/-- Two registered sessions of one visitor are one session. -/
lemma Traced.eq_of_user (h : r.Traced) {id' : String} {n' : Nat} (hn : r.sessions[id]? = some n)
    (hn' : r.sessions[id']? = some n') (hu : (r.session n).user = (r.session n').user) :
    id = id' ∧ n = n' := by
  obtain rfl := id_eq_of_linked h.linked hn hn' hu
  exact ⟨rfl, Option.some.inj (hn.symm.trans hn')⟩

/-- No session of the visitor is left. -/
lemma Traced.user_ne_of_without (h : r.Traced) (hn : r.sessions[id]? = some n) {id' : String}
    {m : Nat} (hm : (r.without id n).sessions[id']? = some m) :
    r.sessions[id']? = some m ∧ (r.session m).user ≠ (r.session n).user := by
  rw [sessions_without] at hm
  split at hm
  · cases hm
  · next hne => exact ⟨hm, fun e => hne (h.eq_of_user hn hm e.symm).1⟩

lemma Traced.without (h : r.Traced) (hn : r.sessions[id]? = some n) : (r.without id n).Traced := by
  refine h.lose rfl (fun {id' m} hm => ?_) fun {u id'} hu => ?_
  · obtain ⟨hm, hne⟩ := h.user_ne_of_without hn hm
    exact ⟨hm, by rw [users_without, if_neg hne.symm]⟩
  · rw [users_without] at hu
    split at hu
    · cases hu
    · exact hu

lemma Traced.remove (h : r.Traced) (id : String) : (r.remove id).Traced := by
  rcases hn : r.sessions[id]? with _ | n
  · rwa [remove_of_unknown hn]
  · rw [remove_of_linked hn (h.linked hn)]
    exact h.without hn

lemma Traced.foldl_remove (h : r.Traced) (ids : List String) :
    (ids.foldl Registry.remove r).Traced := by
  induction ids generalizing r with
  | nil => exact h
  | cons id ids ih => exact ih (h.remove id)

lemma Traced.sweep (h : r.Traced) (now : Time) : (r.sweep now).1.Traced :=
  h.foldl_remove (r.expired now)

lemma Traced.delete (h : r.Traced) (user id : String) : (r.delete user id).1.Traced := by
  have hs : ∀ {id' : String} {m : Nat}, (r.sessions.erase id)[id']? = some m →
      id ≠ id' ∧ r.sessions[id']? = some m := by
    intro id' m hm
    rw [sessions_erase] at hm
    split at hm
    · cases hm
    · next hne => exact ⟨hne, hm⟩
  rcases h.delete_cases user id with
    ⟨n, hn, -, e⟩ | ⟨n, -, -, e⟩ | ⟨-, -, e⟩ | ⟨-, hu, e⟩ <;> rw [e]
  · exact h.without hn
  · exact h.lose rfl (fun hm => ⟨(hs hm).2, rfl⟩) fun hv => hv
  · exact h.lose rfl (fun hm => ⟨(hs hm).2, rfl⟩) fun hv => hv
  · refine h.lose rfl (fun {id' m} hm => ⟨(hs hm).2, ?_⟩) fun {v id'} hv => ?_
    · rw [Std.HashMap.getElem?_erase, if_neg]
      intro he
      have hl := h.linked (hs hm).2
      rw [← eq_of_beq he, hu] at hl
      exact (hs hm).1 (Option.some.inj hl)
    · rw [Std.HashMap.getElem?_erase] at hv
      split at hv
      · cases hv
      · exact hv

/-- A visitor may be given a new session if none is registered. -/
lemma Traced.openSession (h : r.Traced)
    (hu : ∀ {id : String} {n : Nat}, r.sessions[id]? = some n → (r.session n).user ≠ user)
    (now : Time) :
    (r.openSession user now).1.Traced where
  numbered n hn := by
    rw [openSession_created_size] at hn
    rcases Nat.lt_succ_iff_lt_or_eq.mp hn with hlt | rfl
    · rw [session_openSession_old user now hlt]
      exact h.numbered n hlt
    · exact ⟨user, now, by rw [session_openSession_new]; rfl⟩
  named {id n} hm := by
    rw [openSession_sessions] at hm
    rw [openSession_created_size]
    split at hm
    · next hid =>
      obtain rfl := Option.some.inj hm
      exact ⟨Nat.lt_succ_self _, by rw [session_openSession_new, ← hid]; rfl⟩
    · obtain ⟨hn, hs⟩ := h.named hm
      rw [session_openSession_old user now hn]
      exact ⟨Nat.lt_succ_of_lt hn, hs⟩
  linked {id n} hm := by
    rw [openSession_sessions] at hm
    split at hm
    · next hid =>
      obtain rfl := Option.some.inj hm
      rw [session_openSession_new]
      simp [Registry.openSession, Session.begin, hid]
    · rw [session_openSession_old user now (h.named hm).1]
      simpa [Registry.openSession, Std.HashMap.getElem?_insert, (hu hm).symm] using h.linked hm
  traced {v id} hv := by
    rw [openSession_created_size]
    simp only [Registry.openSession, Std.HashMap.getElem?_insert, beq_iff_eq] at hv
    split at hv
    · next hvu =>
      obtain rfl := Option.some.inj hv
      refine ⟨r.created.size, Nat.lt_succ_self _, ?_, ?_⟩ <;> rw [session_openSession_new]
      · rfl
      · exact hvu
    · obtain ⟨n, hn, hid, hs⟩ := h.traced hv
      rw [← session_openSession_old user now hn] at hid hs
      exact ⟨n, Nat.lt_succ_of_lt hn, hid, hs⟩

/-- Which session a look-up finds does not depend on the entries: it is the registered session of
the visitor, if there is one. -/
lemma Traced.obtain_cases (h : r.Traced) (user : String) (now : Time) :
    (∃ (id : String) (n : Nat), r.sessions[id]? = some n ∧ (r.session n).user = user ∧
      (r.session n).isLive now = true ∧
      r.obtain user now = (r.update n (·.touch now r.ttl), n, .kept)) ∨
    ((∀ {id : String} {n : Nat}, r.sessions[id]? = some n → (r.session n).user ≠ user) ∧
      r.obtain user now = ((r.openSession user now).1, r.created.size, .opened)) ∨
    (∃ (id : String) (n : Nat), r.sessions[id]? = some n ∧ (r.session n).user = user ∧
      (r.session n).isLive now = false ∧
      r.obtain user now = (((r.without id n).openSession user now).1, r.created.size,
        if (r.session n).state.isTerminal then .afterExit else .afterExpiry id)) := by
  rcases r.obtain_cases user now with ⟨id, n, hu, hn, hl, e⟩ | ⟨hleft, e⟩ | ⟨id, n, hu, hn, hl, e⟩
  · exact .inl ⟨id, n, hn, h.user_eq hn hu, hl, e⟩
  · refine .inr (.inl ⟨?_, e⟩)
    rintro id n hn rfl
    cases hn.symm.trans (hleft id (h.linked hn))
  · rw [remove_of_linked hn (h.linked hn)] at e
    exact .inr (.inr ⟨id, n, hn, h.user_eq hn hu, hl, e⟩)

lemma Traced.obtain (h : r.Traced) (user : String) (now : Time) : (r.obtain user now).1.Traced := by
  rcases h.obtain_cases user now with ⟨_, n, -, -, -, e⟩ | ⟨hnone, e⟩ | ⟨id, n, hn, rfl, -, e⟩ <;>
    rw [e]
  · exact h.update (r.allowed_touch n now r.ttl)
  · exact h.openSession hnone now
  · exact (h.without hn).openSession (fun hm => (h.user_ne_of_without hn hm).2) now

lemma Exposed.traced {ttl : Time} (h : Exposed ttl r) : r.Traced := by
  induction h with
  | empty => exact (sound_empty ttl).traced
  | perform op _ ht ih =>
    cases op with
    | obtain user now => exact ih.obtain user now
    | sweep now => exact ih.sweep now
    | delete user id => exact ih.delete user id
    | write n f => exact ih.update ht

/-! ### Which deletions are whole -/

/-- **When a deletion is all or nothing**: the session belongs to the visitor if it is registered,
and the visitor's entry does not lead to it if it is not. -/
lemma Traced.deletesWhole_iff (h : r.Traced) (user id : String) :
    r.DeletesWhole user id ↔ r.Allowed (.delete user id) ∧
      (r.users[user]? = some id → r.sessions[id]? ≠ none) := by
  rcases h.delete_cases user id with
    ⟨n, hn, hu, e⟩ | ⟨n, hn, hu, e⟩ | ⟨hn, hu, e⟩ | ⟨hn, hu, e⟩ <;> rw [DeletesWhole, e]
  · refine iff_of_true ⟨by simp [hn], fun _ => sessions_without .., (r.session n).user,
      h.linked hn, fun _ => users_without ..⟩ ⟨fun m hm => ?_, fun _ => by simp [hn]⟩
    rw [← Option.some.inj (hn.symm.trans hm), hu]
  · refine iff_of_false (fun hw => ?_) fun ha => hu (ha.1 n hn)
    obtain ⟨v, hv, hv'⟩ := hw.users
    have := hv' v
    rw [if_pos rfl] at this
    cases hv.symm.trans this
  · refine iff_of_true ⟨fun id' => ?_, fun _ => rfl⟩ ⟨fun m hm => ?_, fun hv => absurd hv hu⟩
    · rw [sessions_erase]
      split
      · next e => rw [← e, hn]
      · rfl
    · cases hn.symm.trans hm
  · refine iff_of_false (fun hw => ?_) fun ha => ha.2 hu hn
    have := hw.users user
    rw [Std.HashMap.getElem?_erase_self, hu] at this
    cases this

/-- A session that was deleted for someone else has left an entry that leads nowhere. -/
lemma Traced.delete_foreign (h : r.Traced) (ha : ¬ r.Allowed (.delete user id)) :
    let r' := (r.delete user id).1
    (r.delete user id).2 = true ∧ r'.sessions[id]? = none ∧
      (∀ v : String, r'.users[v]? = r.users[v]?) ∧ (∃ v : String, r'.users[v]? = some id) ∧
      r'.isConsistent = false := by
  have hd := h.delete user id
  rcases h.delete_cases user id with ⟨n, hn, hu, e⟩ | ⟨n, hn, -, e⟩ | ⟨hn, -, e⟩ | ⟨hn, -, e⟩
  · refine absurd (fun m hm => ?_) ha
    rw [← Option.some.inj (hn.symm.trans hm), hu]
  · rw [e] at hd ⊢
    have hgone : (r.sessions.erase id)[id]? = none := Std.HashMap.getElem?_erase_self
    have hleft := h.linked hn
    exact ⟨rfl, hgone, fun _ => rfl, ⟨_, hleft⟩, hd.inconsistent hleft hgone⟩
  all_goals exact absurd (fun m hm => by cases hn.symm.trans hm) ha

/-- **What a deletion does, whatever it is told.** It is all or nothing exactly if the session is
not registered to another visitor, and if the visitor's entry does not lead to a session that is not
registered; where the registry finds itself consistent, as it does as long as no session is deleted
for another visitor, only the first can fail, and the registry stays consistent exactly then. If the
session is that of another visitor it goes, all entries stay, and the registry is inconsistent. If
the visitor's entry leads to a session that is not registered, only the entry goes, and the answer
is that there was nothing to delete. -/
theorem exposed_delete {ttl : Time} {r : Registry} (h : Exposed ttl r) (user id : String) :
    let r' := (r.delete user id).1
    (r.DeletesWhole user id ↔ r.Allowed (.delete user id) ∧
      (r.users[user]? = some id → r.sessions[id]? ≠ none)) ∧
    (r.isConsistent = true →
      (r.DeletesWhole user id ↔ r.Allowed (.delete user id)) ∧
      (r'.isConsistent = true ↔ r.Allowed (.delete user id))) ∧
    (¬ r.Allowed (.delete user id) →
      (r.delete user id).2 = true ∧ r'.sessions[id]? = none ∧
        (∀ v : String, r'.users[v]? = r.users[v]?) ∧ (∃ v : String, r'.users[v]? = some id) ∧
        r'.isConsistent = false) ∧
    (r.users[user]? = some id → r.sessions[id]? = none →
      (r.delete user id).2 = false ∧ (∀ id' : String, r'.sessions[id']? = r.sessions[id']?) ∧
        r'.users[user]? = none ∧ r.isConsistent = false) := by
  intro r'
  have ht := h.traced
  refine ⟨ht.deletesWhole_iff user id, fun hc => ?_, ht.delete_foreign, fun hu hn => ?_⟩
  · have hs := ht.sound hc
    refine ⟨(ht.deletesWhole_iff user id).trans (and_iff_left fun hu => ?_), fun hc' => ?_,
      fun ha => (hs.delete ha).isConsistent⟩
    · obtain ⟨n, hn, -⟩ := hs.led hu
      simp [hn]
    · by_contra ha
      have hbroken : r'.isConsistent = false := (ht.delete_foreign ha).2.2.2.2
      rw [hbroken] at hc'
      cases hc'
  · rcases ht.delete_cases user id with
      ⟨n, hm, -⟩ | ⟨n, hm, -⟩ | ⟨-, hv, -⟩ | ⟨-, -, e⟩
    · cases hn.symm.trans hm
    · cases hn.symm.trans hm
    · exact absurd hu hv
    · have hr : r' = { r with sessions := r.sessions.erase id, users := r.users.erase user } :=
        congrArg Prod.fst e
      refine ⟨congrArg Prod.snd e, fun id' => ?_, ?_, ht.inconsistent hu hn⟩
      · rw [delete_sessions]
        split
        · next e' => rw [← e', hn]
        · rfl
      · rw [hr]
        exact Std.HashMap.getElem?_erase_self

/-! ### Ann's session, deleted for Bob -/

def afterAnn : Registry := ({ ttl := 10 } : Registry).perform (.obtain "ann" 0)

lemma afterAnn_exposed : Exposed 10 afterAnn := .perform (.obtain "ann" 0) .empty trivial

lemma afterAnn_holds : afterAnn.sessions[idText "ann" 0 1]? = some 0 ∧
    (afterAnn.session 0).user = "ann" ∧ afterAnn.users["ann"]? = some (idText "ann" 0 1) := by
  simp [afterAnn, Registry.perform, Registry.obtain, Registry.openSession, session, newId_eq,
    Session.begin]

lemma afterAnn_foreign : ¬ afterAnn.Allowed (.delete "bob" (idText "ann" 0 1)) := by
  intro ha
  obtain ⟨hn, hu, -⟩ := afterAnn_holds
  exact absurd (hu.symm.trans (ha 0 hn)) (by decide)

/-- Ann's entry is left over when her session is deleted for Bob; when it is deleted for her, the
entry goes as well, and the answer is that there was nothing. -/
theorem exposed_delete_again :
    let r := afterAnn.perform (.delete "bob" (idText "ann" 0 1))
    Exposed 10 r ∧ r.users["ann"]? = some (idText "ann" 0 1) ∧
      r.sessions[idText "ann" 0 1]? = none ∧
      (r.delete "ann" (idText "ann" 0 1)).2 = false ∧
      (r.delete "ann" (idText "ann" 0 1)).1.users["ann"]? = none ∧
      ¬ r.DeletesWhole "ann" (idText "ann" 0 1) := by
  intro r
  have h : Exposed 10 r := .perform (.delete "bob" _) afterAnn_exposed trivial
  obtain ⟨-, hgone, hkept, -⟩ := afterAnn_exposed.traced.delete_foreign afterAnn_foreign
  have hu : r.users["ann"]? = some (idText "ann" 0 1) := (hkept "ann").trans afterAnn_holds.2.2
  obtain ⟨hwhole, -, -, hleft⟩ := exposed_delete h "ann" (idText "ann" 0 1)
  obtain ⟨hanswer, -, hentry, -⟩ := hleft hu hgone
  exact ⟨h, hu, hgone, hanswer, hentry, fun hw => (hwhole.mp hw).2 hu hgone⟩

/-- The session is removed, the entry that leads to it is not, and the answer says that all went
well. -/
theorem delete_for_another :
    Exposed 10 afterAnn ∧ afterAnn.isConsistent = true ∧
      ¬ afterAnn.DeletesWhole "bob" (idText "ann" 0 1) ∧
      (afterAnn.delete "bob" (idText "ann" 0 1)).2 = true ∧
      (afterAnn.delete "bob" (idText "ann" 0 1)).1.sessions[idText "ann" 0 1]? = none ∧
      (afterAnn.delete "bob" (idText "ann" 0 1)).1.users["ann"]? = some (idText "ann" 0 1) ∧
      (afterAnn.delete "bob" (idText "ann" 0 1)).1.isConsistent = false := by
  have ht := afterAnn_exposed.traced
  have hc : afterAnn.isConsistent = true := ((sound_empty 10).obtain "ann" 0).isConsistent
  obtain ⟨hanswer, hgone, hkept, -, hbroken⟩ := ht.delete_foreign afterAnn_foreign
  refine ⟨afterAnn_exposed, hc, fun hw => ?_, hanswer, hgone,
    (hkept "ann").trans afterAnn_holds.2.2, hbroken⟩
  exact afterAnn_foreign ((ht.deletesWhole_iff "bob" _).mp hw).1

end ShopTraffic.Registry
