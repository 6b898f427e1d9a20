import ShopTraffic.Proofs.Registry.Renewal
import ShopTraffic.Proofs.Simulation.Parts

/-!
The contract of a look-up. A visitor whose registered session is live gets that session, prolonged;
any other visitor gets a new one, which takes the place of an old one that is at the exit or has
expired. Which of the two it is can be told from the registered sessions alone: an entry that a
deletion for another visitor has left behind counts for nothing.

Whoever is looked up, the sessions and the entries of all other visitors are left as they are.
-/

namespace ShopTraffic

namespace Registry

def Has (r : Registry) (user : String) (n : Nat) : Prop := r.Holds n ∧ (r.session n).user = user

/-- A session is prolonged, and nothing else happens. -/
structure Prolongs (r r' : Registry) (n : Nat) (now : Time) : Prop where
  session : r'.session n = { r.session n with lastEvent := now, expiry := later now r.ttl }
  others : ∀ m ≠ n, r'.session m = r.session m
  size : r'.created.size = r.created.size
  sessions : r'.sessions = r.sessions
  users : r'.users = r.users

/-- A new session is registered to the visitor, and no other one is. -/
structure Begins (r r' : Registry) (user : String) (now : Time) : Prop where
  size : r'.created.size = r.created.size + 1
  session : r'.session r.created.size =
    { id := r.newId user now, user, state := .browsing, lastEvent := now
      expiry := later now r.ttl }
  fresh : ∀ n < r.created.size, (r.session n).id ≠ r.newId user now
  old : ∀ n < r.created.size, r'.session n = r.session n
  registered : ∀ n, r'.Has user n ↔ n = r.created.size
  entry : r'.users[user]? = some (r.newId user now)

/-- Nothing is different for any visitor but the given one. -/
structure SameForOthers (r r' : Registry) (user : String) : Prop where
  sessions : ∀ n < r.created.size, (r.session n).user ≠ user → r'.session n = r.session n
  registered : ∀ v ≠ user, ∀ n, r'.Has v n ↔ r.Has v n
  entries : ∀ v ≠ user, r'.users[v]? = r.users[v]?

/-- A session of the visitor is registered that has expired before its visitor left. -/
def Lapsed (r : Registry) (user : String) (now : Time) : Prop :=
  ∃ n, r.Has user n ∧ (r.session n).state ≠ .exit ∧ (r.session n).expiry ≤ now

variable {r : Registry} {user : String} {now ttl : Time} {n : Nat}

lemma Exposed.ttl_eq (h : Exposed ttl r) : r.ttl = ttl := by
  induction h with
  | empty => rfl
  | @perform r op h _ ih =>
    cases op with
    | obtain user now => exact (h.traced.renewed user now).ttl.trans ih
    | sweep now => exact (r.sweep_ttl now).trans ih
    | delete user id => exact (r.delete_ttl user id).trans ih
    | write n f => exact ih

/-- A visitor has one registered session at most. -/
lemma Traced.has_unique (h : r.Traced) {m : Nat} (hn : r.Has user n) (hm : r.Has user m) : n = m :=
  (h.eq_of_user hn.1 hm.1 (hn.2.trans hm.2.symm)).2

lemma Traced.has_of_registered (h : r.Traced) {id : String} (hn : r.sessions[id]? = some n)
    (hs : (r.session n).user = user) : r.Has user n :=
  ⟨by rw [Holds, (h.named hn).2, hn], hs⟩

/-! ### A live session -/

lemma Traced.obtain_live (h : r.Traced) (hn : r.Has user n)
    (hl : (r.session n).isLive now = true) :
    r.obtain user now = (r.update n (·.touch now r.ttl), n, .kept) := by
  obtain ⟨hn, rfl⟩ := hn
  exact obtain_of_live (h.linked hn) hn hl

lemma Traced.prolongs (h : r.Traced) (hn : r.Has user n) (hl : (r.session n).isLive now = true) :
    r.Prolongs (r.obtain user now).1 n now := by
  rw [h.obtain_live hn hl]
  obtain ⟨hlt, -⟩ := h.named hn.1
  exact
    { session := session_update_self hlt _
      others := fun m hne => session_update_ne hne.symm _
      size := update_size r n _
      sessions := rfl
      users := rfl }

/-! ### A new session -/

/-- A visitor without a live session is given a new one. -/
lemma Traced.opened (h : r.Traced) (hover : ∀ n, r.Has user n → (r.session n).isLive now = false) :
    r.Opened user now := by
  rcases h.obtain_live_or_opened user now with ⟨n, -, hn, hs, hl⟩ | ho
  · cases hl.symm.trans (hover n ⟨hn, hs⟩)
  · exact ho

lemma Opened.begins (ho : r.Opened user now) (h : r.Traced) :
    r.Begins (r.obtain user now).1 user now := by
  have ht := h.obtain user now
  have hsize : (r.obtain user now).1.created.size = r.created.size + 1 := by
    rw [ho.created, Array.size_push]
  have hhas : (r.obtain user now).1.Has user r.created.size := ⟨ho.new, by rw [ho.session_new]; rfl⟩
  have hlinked := ht.linked hhas.1
  rw [ho.session_new] at hlinked
  exact
    { size := hsize
      session := ho.session_new
      fresh := fun n hn => (newId_ne_of_numbered h.numbered user now hn).symm
      old := fun _ => ho.session_old
      registered := fun n => ⟨fun hn => ht.has_unique hn hhas, fun e => e ▸ hhas⟩
      entry := hlinked }

/-- An old session counts as completed if it has expired before its visitor left. -/
lemma Traced.origin_over (h : r.Traced)
    (hover : ∀ n, r.Has user n → (r.session n).isLive now = false) :
    (r.Lapsed user now → ∃ id, (r.obtain user now).2.2 = .afterExpiry id) ∧
    (¬ r.Lapsed user now →
      (r.obtain user now).2.2 = .opened ∨ (r.obtain user now).2.2 = .afterExit) := by
  rcases h.obtain_cases user now with ⟨id, n, hn, hs, hl, -⟩ | ⟨hnone, e⟩ | ⟨id, n, hn, hs, hl, e⟩
  · cases hl.symm.trans (hover n (h.has_of_registered hn hs))
  · rw [e]
    refine ⟨?_, fun _ => .inl rfl⟩
    rintro ⟨n, hn, -⟩
    exact absurd hn.2 (hnone hn.1)
  · have hhas := h.has_of_registered hn hs
    rw [e]
    by_cases hx : (r.session n).state = .exit
    · refine ⟨?_, fun _ => .inr (if_pos (decide_eq_true hx))⟩
      rintro ⟨m, hm, hinside, -⟩
      rw [h.has_unique hm hhas] at hinside
      exact absurd hx hinside
    · have hlapsed : r.Lapsed user now := by
        refine ⟨n, hhas, hx, Int64.not_lt.mp fun hlt => ?_⟩
        cases hl.symm.trans ((Session.isLive_iff _ now).mpr ⟨hx, hlt⟩)
      refine ⟨fun _ => ⟨id, if_neg fun e => hx (of_decide_eq_true e)⟩, fun hno => ?_⟩
      exact absurd hlapsed hno

/-! ### All other visitors -/

lemma Traced.obtain_entries (h : r.Traced) {v : String} (hv : v ≠ user) :
    (r.obtain user now).1.users[v]? = r.users[v]? := by
  have hopen : ∀ r₀ : Registry, (r₀.openSession user now).1.users[v]? = r₀.users[v]? := fun r₀ => by
    simp [Registry.openSession, Std.HashMap.getElem?_insert, hv.symm]
  rcases h.obtain_cases user now with ⟨_, n, -, -, -, e⟩ | ⟨-, e⟩ | ⟨id, n, -, hs, -, e⟩ <;> rw [e]
  · rfl
  · exact hopen r
  · rw [hopen, users_without, hs, if_neg hv.symm]

lemma Traced.has_lt (h : r.Traced) (hn : r.Has user n) : n < r.created.size :=
  (h.named hn.1).1

/-- What is registered to whom does not change when a session is prolonged. -/
lemma Prolongs.has {r' : Registry} (hp : r.Prolongs r' n now) (v : String) (m : Nat) :
    r'.Has v m ↔ r.Has v m := by
  have hkept : (r'.session m).id = (r.session m).id ∧ (r'.session m).user = (r.session m).user := by
    by_cases hm : m = n
    · rw [hm, hp.session]
      exact ⟨rfl, rfl⟩
    · rw [hp.others m hm]
      exact ⟨rfl, rfl⟩
  rw [Has, Has, Holds, Holds, hp.sessions, hkept.1, hkept.2]

lemma Opened.has (ho : r.Opened user now) (h : r.Traced) {v : String} (hv : v ≠ user) (m : Nat) :
    (r.obtain user now).1.Has v m ↔ r.Has v m := by
  have hb := ho.begins h
  rcases lt_trichotomy m r.created.size with hlt | rfl | hgt
  · rw [Has, Has, ho.old m hlt, hb.old m hlt, and_assoc]
    refine and_congr_right fun _ => and_iff_right_of_imp fun hs => ?_
    rw [hs]
    exact hv
  · refine iff_of_false (fun hm => hv ?_) fun hm => (h.has_lt hm).false
    rw [← hm.2, hb.session]
  · refine iff_of_false (fun hm => ?_) fun hm => ?_
    · have hlt := (h.obtain user now).has_lt hm
      rw [hb.size] at hlt
      omega
    · have hlt := h.has_lt hm
      omega

/-- **A look-up touches one visitor only.** -/
lemma Traced.obtain_sameForOthers (h : r.Traced) (user : String) (now : Time) :
    r.SameForOthers (r.obtain user now).1 user := by
  by_cases hlive : ∃ n, r.Has user n ∧ (r.session n).isLive now = true
  · obtain ⟨n, hn, hl⟩ := hlive
    have hp := h.prolongs hn hl
    refine ⟨fun m _ hm => hp.others m ?_, fun v _ => hp.has v, fun v hv => h.obtain_entries hv⟩
    rintro rfl
    exact hm hn.2
  · have hover : ∀ n, r.Has user n → (r.session n).isLive now = false := fun n hn =>
      Bool.eq_false_iff.mpr fun hl => hlive ⟨n, hn, hl⟩
    have ho := h.opened hover
    exact ⟨fun m hm _ => (ho.begins h).old m hm, fun v hv => ho.has h hv,
      fun v hv => h.obtain_entries hv⟩

lemma afterAnn_created :
    afterAnn.created = #[Session.begin (idText "ann" 0 1) "ann" 0 10] := by
  simp [afterAnn, Registry.perform, Registry.obtain, openSession, newId_eq]

end Registry

namespace Simulation

variable {sim : Simulation}

/-- A look-up is counted by how the visitor came by the session. -/
lemma obtain_metrics (sim : Simulation) (user : String) (now : Time) :
    (sim.obtain user now).1.metrics = match (sim.registry.obtain user now).2.2 with
      | .kept => sim.metrics
      | .opened | .afterExit => sim.metrics.started
      | .afterExpiry _ => sim.metrics.completed.started := by
  simp only [obtain]
  cases (sim.registry.obtain user now).2.2 <;> rfl

/-- **The contract of a look-up.** Take any registry that look-ups, sweeps, writes and deletions of
any kind have led to. A session that is registered to the visitor, is not at the exit and expires
later is given back, prolonged, and nothing else changes. If there is none, the visitor gets a new
session under an id that no session ever had, and no other session stays registered to the visitor;
it counts as started, and an old one counts as completed if it has expired before it came to the
exit. Nothing is different for any other visitor. -/
theorem obtain_contract {ttl : Time} (h : Registry.Exposed ttl sim.registry) (user : String)
    (now : Time) :
    let r := sim.registry
    let sim' := (sim.obtain user now).1
    let n := (sim.obtain user now).2
    r.ttl = ttl ∧
    (∀ m, r.Has user m → (r.session m).state ≠ .exit → now < (r.session m).expiry →
      n = m ∧ r.Prolongs sim'.registry m now ∧ sim'.metrics = sim.metrics) ∧
    ((∀ m, r.Has user m → (r.session m).state = .exit ∨ (r.session m).expiry ≤ now) →
      n = r.created.size ∧ r.Begins sim'.registry user now ∧
      (r.Lapsed user now → sim'.metrics.counts =
        { sim.metrics.counts with
          started := sim.metrics.counts.started + 1
          completed := sim.metrics.counts.completed + 1 }) ∧
      (¬ r.Lapsed user now → sim'.metrics.counts =
        { sim.metrics.counts with started := sim.metrics.counts.started + 1 })) ∧
    r.SameForOthers sim'.registry user := by
  intro r sim' n
  have ht := h.traced
  have hregistry : sim'.registry = (r.obtain user now).1 := sim.obtain_registry user now
  have hhandle : n = (r.obtain user now).2.1 := sim.obtain_handle user now
  have hmetrics := sim.obtain_metrics user now
  rw [hregistry, hhandle]
  refine ⟨h.ttl_eq, fun m hm hx hlt => ?_, fun hover => ?_, ht.obtain_sameForOthers user now⟩
  · have hl := ((r.session m).isLive_iff now).mpr ⟨hx, hlt⟩
    have hkept := ht.obtain_live hm hl
    rw [hkept] at hmetrics
    exact ⟨congrArg (·.2.1) hkept, ht.prolongs hm hl, hmetrics⟩
  · have hover : ∀ m, r.Has user m → (r.session m).isLive now = false := by
      intro m hm
      rw [Bool.eq_false_iff, Ne, Session.isLive_iff, not_and_or, not_not, Int64.not_lt]
      exact hover m hm
    have ho := ht.opened hover
    obtain ⟨hlapsed, hnone⟩ := ht.origin_over hover
    refine ⟨ho.handle, ho.begins ht, fun hl => ?_, fun hl => ?_⟩
    · obtain ⟨id, he⟩ := hlapsed hl
      rw [he] at hmetrics
      exact congrArg Metrics.counts hmetrics
    · rcases hnone hl with he | he <;> rw [he] at hmetrics <;>
        exact congrArg Metrics.counts hmetrics

/-- Ann's session can be prolonged for ten milliseconds; then it has expired, and she gets another
one in its place. -/
theorem obtain_contract_ann :
    let sim : Simulation := { create 1 10 4 .standard with registry := Registry.afterAnn }
    Registry.Exposed 10 sim.registry ∧ sim.registry.Has "ann" 0 ∧
      (sim.obtain "ann" 9).2 = 0 ∧ ((sim.obtain "ann" 9).1.registry.session 0).expiry = 19 ∧
      (sim.obtain "ann" 10).2 = 1 ∧ ¬ (sim.obtain "ann" 10).1.registry.Has "ann" 0 ∧
      (sim.obtain "ann" 10).1.metrics.counts.completed = 1 ∧
      (sim.obtain "bob" 10).1.registry.users["ann"]? = some (Registry.idText "ann" 0 1) := by
  intro sim
  have h : Registry.Exposed 10 sim.registry := Registry.afterAnn_exposed
  obtain ⟨hn, hu, hentry⟩ := Registry.afterAnn_holds
  have hhas : sim.registry.Has "ann" 0 := h.traced.has_of_registered hn hu
  have honly : ∀ m, sim.registry.Has "ann" m → m = 0 := fun m hm => h.traced.has_unique hm hhas
  have hsize : sim.registry.created.size = 1 := congrArg Array.size Registry.afterAnn_created
  have hsession :
      sim.registry.session 0 = Session.begin (Registry.idText "ann" 0 1) "ann" 0 10 := by
    simp [sim, Registry.session, Registry.afterAnn_created]
  have hexpiry : (sim.registry.session 0).expiry = 10 := by
    rw [hsession]
    decide
  have hinside : (sim.registry.session 0).state ≠ .exit := by
    rw [hsession]
    exact State.noConfusion
  have hover : (sim.registry.session 0).expiry ≤ 10 := by
    rw [hexpiry]
    decide
  obtain ⟨httl, hlive, -⟩ := obtain_contract h "ann" 9
  obtain ⟨hkept, hprolongs, -⟩ := hlive 0 hhas hinside (by rw [hexpiry]; decide)
  obtain ⟨-, -, hnew, -⟩ := obtain_contract h "ann" 10
  obtain ⟨hhandle, hbegins, hlapsed, -⟩ := hnew fun m hm => .inr (honly m hm ▸ hover)
  obtain ⟨-, -, -, hothers⟩ := obtain_contract h "bob" 10
  refine ⟨h, hhas, hkept, ?_, hhandle.trans hsize, fun hm => ?_, ?_, ?_⟩
  · rw [hprolongs.session, httl]
    decide
  · cases ((hbegins.registered 0).mp hm).trans hsize
  · rw [hlapsed ⟨0, hhas, hinside, hover⟩]
    rfl
  · exact (hothers.entries "ann" (by decide)).trans hentry

end Simulation

end ShopTraffic
