import ShopTraffic.Proofs.Registry.Turnover
import ShopTraffic.Proofs.Simulation.LookUp

/-!
The contract of a sweep. The ids of the expired sessions are collected in the order in which the
table happens to hold them, and then they are removed one after the other; each removal looks in the
table of the visitors whether there is an entry to be taken out as well. What is left does not
depend on that order: a removal takes out the entry of one visitor and of no other, because two
registered sessions are never of one visitor.
-/

namespace ShopTraffic

lemma Session.isExpired_iff (s : Session) (now : Time) : s.isExpired now = true ↔ s.expiry ≤ now :=
  decide_eq_true_iff

namespace Registry

/-- The expired sessions are taken out with the entries of their visitors, and nothing else. -/
structure Sweeps (r r' : Registry) (now : Time) : Prop where
  ttl : r'.ttl = r.ttl
  created : r'.created = r.created
  registered : ∀ (id : String) (n : Nat),
    r'.sessions[id]? = some n ↔ r.sessions[id]? = some n ∧ now < (r.session n).expiry
  /-- This speaks also of visitors none of whose sessions is registered. -/
  kept : ∀ user : String,
    (∀ n, r.Has user n → now < (r.session n).expiry) → r'.users[user]? = r.users[user]?
  gone : ∀ (user : String) (n : Nat),
    r.Has user n → (r.session n).expiry ≤ now → r'.users[user]? = none

variable {r r' : Registry} {user id : String} {now : Time} {ids : List String}

/-! ### Removing one after the other -/

/-- A removal takes out the entry that leads to the session. -/
lemma Traced.remove_users (h : r.Traced) (id user : String) :
    (r.remove id).users[user]? =
      if r.sessions[id]? ≠ none ∧ r.users[user]? = some id then none else r.users[user]? := by
  rcases hn : r.sessions[id]? with _ | n
  · simp [remove_of_unknown hn]
  · have hlinked := h.linked hn
    have hiff : (r.session n).user = user ↔ r.users[user]? = some id :=
      ⟨fun e => e ▸ hlinked, fun hu => h.user_eq hn hu⟩
    simp [remove_of_linked hn hlinked, users_without, hiff]

/-- The entries that lead to one of the sessions are taken out. -/
lemma Traced.foldl_remove_users (h : r.Traced) (ids : List String) (user : String) :
    (ids.foldl Registry.remove r).users[user]? =
      if ∃ id ∈ ids, r.sessions[id]? ≠ none ∧ r.users[user]? = some id then none
      else r.users[user]? := by
  induction ids generalizing r with
  | nil => simp
  | cons a ids ih =>
    rw [List.foldl_cons, ih (h.remove a), h.remove_users a user]
    by_cases ha : r.sessions[a]? ≠ none ∧ r.users[user]? = some a
    · -- an entry that is out stays out
      rw [if_pos ha, ite_self, if_pos ⟨a, List.mem_cons_self, ha⟩]
    · rw [if_neg ha]
      have hsame : ∀ id, r.users[user]? = some id →
          (r.remove a).sessions[id]? = r.sessions[id]? := by
        intro id hu
        rw [remove_sessions]
        split
        · next e =>
          subst e
          exact (not_not.mp fun hs => ha ⟨hs, hu⟩).symm
        · rfl
      refine if_congr ⟨?_, ?_⟩ rfl rfl
      · rintro ⟨id, hid, hs, hu⟩
        exact ⟨id, List.mem_cons_of_mem a hid, hsame id hu ▸ hs, hu⟩
      · rintro ⟨id, hid, hs, hu⟩
        rcases List.mem_cons.mp hid with rfl | hid
        · exact absurd ⟨hs, hu⟩ ha
        · exact ⟨id, hid, (hsame id hu).symm ▸ hs, hu⟩

lemma remove_size (hid : r.sessions[id]? ≠ none) : (r.remove id).size + 1 = r.size := by
  obtain ⟨n, hn⟩ := Option.ne_none_iff_exists'.mp hid
  have hmem : id ∈ r.sessions := by simp [Std.HashMap.mem_iff_isSome_getElem?, hn]
  have hpos : r.sessions.size ≠ 0 := fun h0 => by
    have hempty : r.sessions.isEmpty = true := by simp [Std.HashMap.isEmpty_eq_size_eq_zero, h0]
    exact Std.HashMap.isEmpty_iff_forall_not_mem.mp hempty id hmem
  have hsize : (r.remove id).size = r.sessions.size - 1 := by
    simp [remove, size, Std.HashMap.size_erase, hmem]
  rw [hsize, size]
  omega

lemma foldl_remove_size (hnodup : ids.Nodup) (hids : ∀ id ∈ ids, r.sessions[id]? ≠ none) :
    (ids.foldl remove r).size + ids.length = r.size := by
  induction ids generalizing r with
  | nil => rfl
  | cons a ids ih =>
    obtain ⟨ha, hnodup⟩ := List.nodup_cons.mp hnodup
    have hrest : ∀ id ∈ ids, (r.remove a).sessions[id]? ≠ none := fun id hid => by
      rw [remove_sessions, if_neg (ne_of_mem_of_not_mem hid ha).symm]
      exact hids id (List.mem_cons_of_mem a hid)
    have htail := ih hnodup hrest
    have hone := r.remove_size (hids a List.mem_cons_self)
    rw [List.foldl_cons, List.length_cons]
    omega

/-! ### The expired sessions -/

/-- **The order of the removals does not matter.** -/
lemma Traced.sweeps_of_mem (h : r.Traced) (hids : ∀ id, id ∈ ids ↔ id ∈ r.expired now) :
    r.Sweeps (ids.foldl Registry.remove r) now where
  ttl := r.foldl_remove_ttl ids
  created := r.foldl_remove_created ids
  registered id n := by
    rw [foldl_remove_sessions]
    constructor
    · intro hn
      split at hn
      · cases hn
      · next hlive =>
        refine ⟨hn, Int64.not_le.mp fun hle => hlive ?_⟩
        exact (hids id).mpr (mem_expired.mpr ⟨n, hn, (Session.isExpired_iff _ now).mpr hle⟩)
    · rintro ⟨hn, hlt⟩
      rw [if_neg, hn]
      intro hid
      obtain ⟨m, hm, hle⟩ := mem_expired.mp ((hids id).mp hid)
      rw [Option.some.inj (hn.symm.trans hm)] at hlt
      exact Int64.not_le.mpr hlt ((Session.isExpired_iff _ now).mp hle)
  kept user hlive := by
    rw [h.foldl_remove_users, if_neg]
    rintro ⟨id, hid, -, hu⟩
    obtain ⟨n, hn, hle⟩ := mem_expired.mp ((hids id).mp hid)
    have hlt := hlive n (h.has_of_registered hn (h.user_eq hn hu))
    exact Int64.not_le.mpr hlt ((Session.isExpired_iff _ now).mp hle)
  gone user n hn hle := by
    obtain ⟨hholds, rfl⟩ := hn
    rw [h.foldl_remove_users, if_pos]
    refine ⟨(r.session n).id, (hids _).mpr (mem_expired.mpr ⟨n, hholds, ?_⟩), ?_, h.linked hholds⟩
    · exact (Session.isExpired_iff _ now).mpr hle
    · rw [hholds]
      exact Option.some_ne_none n

lemma Traced.sweeps (h : r.Traced) (now : Time) : r.Sweeps (r.sweep now).1 now :=
  h.sweeps_of_mem fun _ => Iff.rfl

lemma sweep_size (r : Registry) (now : Time) :
    (r.sweep now).1.size + (r.sweep now).2 = r.size := by
  refine foldl_remove_size (r.expired_nodup now) fun id hid => ?_
  obtain ⟨n, hn, -⟩ := mem_expired.mp hid
  rw [hn]
  exact Option.some_ne_none n

lemma sweep_count (r : Registry) (now : Time) :
    (r.sweep now).2 = (r.registered.filter fun n => (r.session n).isExpired now).length := by
  simp [Registry.sweep, expired, registered, List.filter_map, Function.comp_def]

/-- What is left at one time had not expired at an earlier one. -/
lemma Sweeps.expired_eq_nil (h : r.Sweeps r' now) {earlier : Time} (hle : earlier ≤ now) :
    r'.expired earlier = [] := by
  refine List.eq_nil_iff_forall_not_mem.mpr fun id hid => ?_
  obtain ⟨n, hn, he⟩ := mem_expired.mp hid
  rw [session_congr h.created, Session.isExpired_iff] at he
  obtain ⟨-, hlt⟩ := (h.registered id n).mp hn
  exact Int64.not_le.mpr hlt (Int64.le_trans he hle)

lemma sweep_of_expired_eq_nil (h : r.expired now = []) : r.sweep now = (r, 0) := by
  rw [Registry.sweep, h]
  rfl

/-! ### Ann and Bob -/

def afterBoth : Registry := afterAnn.perform (.obtain "bob" 5)

lemma afterBoth_exposed : Exposed 10 afterBoth :=
  .perform (.obtain "bob" 5) afterAnn_exposed trivial

lemma afterBoth_created : afterBoth.created = #[
    Session.begin (idText "ann" 0 1) "ann" 0 10,
    Session.begin (idText "bob" 5 2) "bob" 5 10] := by
  simp [afterBoth, afterAnn, Registry.perform, Registry.obtain, openSession, newId_eq]

lemma afterBoth_sessions (id : String) : afterBoth.sessions[id]? =
    if idText "bob" 5 2 = id then some 1 else if idText "ann" 0 1 = id then some 0 else none := by
  simp [afterBoth, afterAnn, Registry.perform, Registry.obtain, openSession, newId_eq,
    Std.HashMap.getElem?_insert]

lemma afterBoth_users : afterBoth.users["bob"]? = some (idText "bob" 5 2) := by
  simp [afterBoth, afterAnn, Registry.perform, Registry.obtain, openSession, newId_eq]

lemma afterBoth_has : afterBoth.Has "ann" 0 ∧ afterBoth.Has "bob" 1 := by
  have hne : idText "bob" 5 2 ≠ idText "ann" 0 1 := fun e => absurd (idText_inj e) (by decide)
  simp [Has, Holds, session, afterBoth_created, afterBoth_sessions, Session.begin, hne]

/-- At the tenth millisecond Ann's session has expired, and Bob's has not. -/
lemma afterBoth_expired : [idText "ann" 0 1].Perm (afterBoth.expired 10) := by
  refine (List.perm_ext_iff_of_nodup (List.nodup_singleton _) (expired_nodup _ _)).mpr fun id => ?_
  have hne : idText "bob" 5 2 ≠ idText "ann" 0 1 := fun e => absurd (idText_inj e) (by decide)
  have hann : (Session.begin (idText "ann" 0 1) "ann" 0 10).isExpired 10 = true := by decide
  have hbob : (Session.begin (idText "bob" 5 2) "bob" 5 10).isExpired 10 = false := by decide
  rw [List.mem_singleton, mem_expired, afterBoth_sessions]
  split_ifs with h₁ h₂
  · simp [session, afterBoth_created, ← h₁, hne, hbob]
  · simp [session, afterBoth_created, ← h₂, hann]
  · simp [Ne.symm h₂]

end Registry

namespace Simulation

variable {sim : Simulation}

lemma sweep_removed (sim : Simulation) (now : Time) :
    (sim.sweep now).2 = (sim.registry.sweep now).2 := rfl

/-- A sweep counts the sessions that it removes as completed, and counts nothing else. -/
lemma sweep_counts (sim : Simulation) (now : Time) :
    (sim.sweep now).1.metrics.counts =
      { sim.metrics.counts with
        completed := sim.metrics.counts.completed + (sim.registry.sweep now).2 } := by
  unfold sweep
  dsimp only
  split <;> simp [note, Metrics.activeSessions, completedTimes_counts]

/-- **The contract of a sweep.** Take any registry that look-ups, sweeps, writes and deletions of
any kind have led to, and any time, be it before others that were used. The sessions that stay
registered are those that expire after that time, under the numbers that they had; no session is
written. The entries of visitors whose registered sessions have expired are gone, and all others are
as they were. This holds in whatever order the expired sessions are removed. How many were removed
is what the sweep answers, what the counter of completed sessions rises by, and how many of the
registered sessions had expired. Another sweep for that time or for an earlier one finds nothing. -/
theorem sweep_contract {ttl : Time} (h : Registry.Exposed ttl sim.registry) (now : Time) :
    let r := sim.registry
    let sim' := (sim.sweep now).1
    let removed := (sim.sweep now).2
    r.Sweeps sim'.registry now ∧
    (∀ ids : List String, ids.Perm (r.expired now) →
      r.Sweeps (ids.foldl Registry.remove r) now ∧ ids.length = removed) ∧
    sim'.registry.size + removed = r.size ∧
    removed = (r.registered.filter fun n => (r.session n).expiry ≤ now).length ∧
    sim'.metrics.counts =
      { sim.metrics.counts with completed := sim.metrics.counts.completed + removed } ∧
    ∀ earlier ≤ now, (sim'.sweep earlier).2 = 0 ∧
      (sim'.sweep earlier).1.registry = sim'.registry ∧
      (sim'.sweep earlier).1.metrics.counts = sim'.metrics.counts := by
  intro r sim' removed
  have ht := h.traced
  have hregistry : sim'.registry = (r.sweep now).1 := sim.sweep_registry now
  have hsweeps : r.Sweeps sim'.registry now := hregistry ▸ ht.sweeps now
  have hsize : sim'.registry.size + removed = r.size := by
    rw [hregistry]
    exact r.sweep_size now
  refine ⟨hsweeps, fun ids hids => ⟨ht.sweeps_of_mem fun _ => hids.mem_iff, hids.length_eq⟩, hsize,
    r.sweep_count now, sim.sweep_counts now, fun earlier hle => ?_⟩
  have hnone : sim'.registry.sweep earlier = (sim'.registry, 0) :=
    Registry.sweep_of_expired_eq_nil (hsweeps.expired_eq_nil hle)
  refine ⟨?_, ?_, ?_⟩
  · rw [sweep_removed, hnone]
  · rw [sweep_registry, hnone]
  · rw [sweep_counts, hnone, Nat.add_zero]

/-- Ann came at the beginning and Bob a little later. When Ann's session has expired it is swept and
Bob's is not; a sweep for a time before that removes nothing. -/
theorem sweep_contract_ann :
    let sim : Simulation := { create 1 10 4 .standard with registry := Registry.afterBoth }
    Registry.Exposed 10 sim.registry ∧ (sim.sweep 10).2 = 1 ∧
      ¬ (sim.sweep 10).1.registry.Has "ann" 0 ∧
      (sim.sweep 10).1.registry.users["ann"]? = none ∧
      (sim.sweep 10).1.registry.users["bob"]? = some (Registry.idText "bob" 5 2) ∧
      (sim.sweep 10).1.metrics.counts.completed = 1 ∧ ((sim.sweep 10).1.sweep 7).2 = 0 := by
  intro sim
  have h : Registry.Exposed 10 sim.registry := Registry.afterBoth_exposed
  obtain ⟨hann, hbob⟩ : sim.registry.Has "ann" 0 ∧ sim.registry.Has "bob" 1 :=
    Registry.afterBoth_has
  have hover : (sim.registry.session 0).expiry ≤ 10 := by
    simp only [sim, Registry.session, Registry.afterBoth_created]
    decide
  have hlive : ∀ n, sim.registry.Has "bob" n → 10 < (sim.registry.session n).expiry := by
    intro n hn
    rw [h.traced.has_unique hn hbob]
    simp only [sim, Registry.session, Registry.afterBoth_created]
    decide
  obtain ⟨hsweeps, horder, -, -, hcounts, hagain⟩ := sweep_contract h 10
  obtain ⟨-, hremoved⟩ := horder _ Registry.afterBoth_expired
  refine ⟨h, hremoved.symm, fun hleft => ?_, hsweeps.gone "ann" 0 hann hover,
    (hsweeps.kept "bob" hlive).trans Registry.afterBoth_users, ?_, (hagain 7 (by decide)).1⟩
  · obtain ⟨-, hlt⟩ := (hsweeps.registered _ 0).mp hleft.1
    exact Int64.not_le.mpr hlt hover
  · rw [hcounts, ← hremoved]
    rfl

end Simulation

end ShopTraffic
