import Mathlib.Data.List.Nodup
import ShopTraffic.Proofs.Runs
import ShopTraffic.Proofs.Simulation.Parts

/-!
Where sessions end up. Every session that was ever created is either registered or has left the
registry in one of four ways: it was deleted, it was swept, or a look-up found that it was over and
opened another in its place, because it had expired or because its visitor had left.

This asks for less than that the tables match. Names that do not belong together may be deleted, so
that an entry of a visitor leads nowhere, and sessions may be written through their handles in any
way: what counts is that every registered id carries the number of its session.
-/

namespace ShopTraffic

inductive Way
  | deleted
  | swept
  /-- A look-up found that it had expired with its visitor inside. -/
  | lapsed
  /-- A look-up found that its visitor had left. -/
  | left
  deriving DecidableEq

structure Departure where
  session : Nat
  way : Way

/-- There is no fifth way. -/
lemma length_eq_ways (ways : List Way) :
    ways.length = ways.count .deleted + ways.count .swept + ways.count .lapsed +
      ways.count .left := by
  induction ways with
  | nil => rfl
  | cons way ways ih => cases way <;> simp [ih] <;> omega

namespace Registry

variable {r r' : Registry}

/-! ### The accounts -/

/-- The registered session of a visitor, if it is over. -/
def over? (r : Registry) (user : String) (now : Time) : Option Nat :=
  (r.current? user).filter fun n => !(r.session n).isLive now

/-- The sessions that an operation takes out. -/
def departures (r : Registry) : Op → List Departure
  | .obtain user now => (r.over? user now).toList.map fun n =>
      ⟨n, if (r.session n).state.isTerminal then .left else .lapsed⟩
  | .sweep now => ((r.expired now).filterMap (r.sessions[·]?)).map (⟨·, .swept⟩)
  | .delete _ session => r.sessions[session]?.toList.map (⟨·, .deleted⟩)
  | .write _ _ => []

lemma departures_write (r : Registry) (n : Nat) (f : Session → Session) :
    r.departures (.write n f) = [] := rfl

/-- How many sessions leave in some way, as far as callers can see: a deletion says whether it found
the session, a sweep says how many it removed, and a look-up replaces what it does not find live. -/
def takes (r : Registry) : Way → Op → Nat
  | .deleted, .delete user session => (r.delete user session).2.toNat
  | .swept, .sweep now => (r.sweep now).2
  | .lapsed, .obtain user now =>
    ((r.over? user now).filter fun n => !(r.session n).state.isTerminal).isSome.toNat
  | .left, .obtain user now =>
    ((r.over? user now).filter fun n => (r.session n).state.isTerminal).isSome.toNat
  | _, _ => 0

def run (r : Registry) (ops : List Op) : Registry := ops.foldl perform r

@[simp] lemma run_nil (r : Registry) : r.run [] = r := rfl

@[simp] lemma run_cons (r : Registry) (op : Op) (ops : List Op) :
    r.run (op :: ops) = (r.perform op).run ops := rfl

lemma run_append (r : Registry) (ops more : List Op) :
    r.run (ops ++ more) = (r.run ops).run more := List.foldl_append

def departed (r : Registry) (ops : List Op) : List Departure := yields perform departures r ops

@[simp] lemma departed_nil (r : Registry) : r.departed [] = [] := rfl

@[simp] lemma departed_cons (r : Registry) (op : Op) (ops : List Op) :
    r.departed (op :: ops) = r.departures op ++ (r.perform op).departed ops := rfl

lemma departed_append (r : Registry) (ops more : List Op) :
    r.departed (ops ++ more) = r.departed ops ++ (r.run ops).departed more :=
  yields_append perform departures r ops more

def total (r : Registry) (way : Way) : List Op → Nat
  | [] => 0
  | op :: ops => r.takes way op + (r.perform op).total way ops

def registered (r : Registry) : List Nat := r.sessions.toList.map (·.2)

lemma mem_registered {n : Nat} : n ∈ r.registered ↔ ∃ id : String, r.sessions[id]? = some n := by
  simp [registered, Std.HashMap.mem_toList_iff_getElem?_eq_some]

lemma length_registered (r : Registry) : r.registered.length = r.size := by
  rw [registered, List.length_map, Std.HashMap.length_toList, size]

/-- A sweep counts the sessions that it takes out. -/
lemma length_swept (r : Registry) (now : Time) :
    ((r.expired now).filterMap (r.sessions[·]?)).length = (r.sweep now).2 := by
  rw [List.length_filterMap_eq_countP]
  refine List.countP_eq_length.mpr fun id hid => ?_
  obtain ⟨n, hn, -⟩ := mem_expired.mp hid
  simp [hn]

/-- The departures are those that callers see. -/
lemma count_departures (r : Registry) (way : Way) (op : Op) :
    ((r.departures op).map (·.way)).count way = r.takes way op := by
  cases op with
  | obtain user now =>
    rcases ho : r.over? user now with _ | n
    · cases way <;> simp [departures, takes, ho]
    · cases hx : (r.session n).state.isTerminal <;> cases way <;>
        simp [departures, takes, ho, hx]
  | sweep now =>
    have h := r.length_swept now
    cases way <;> simp [departures, takes, Function.comp_def, List.count_replicate, ← h]
  | delete user session =>
    rcases hs : r.sessions[session]? with _ | n <;> cases way <;>
      simp [departures, takes, delete, Std.HashMap.contains_eq_isSome_getElem?, hs]
  | write n f => cases way <;> rfl

lemma count_departed (r : Registry) (way : Way) (ops : List Op) :
    ((r.departed ops).map (·.way)).count way = r.total way ops := by
  induction ops generalizing r with
  | nil => rfl
  | cons op ops ih =>
    simp only [departed_cons, total, List.map_append, List.count_append, count_departures, ih]

/-! ### No session is lost, and none leaves twice -/

/-- Ids carry the numbers of their sessions, and `ns` are the numbers of those not registered. -/
structure Settled (r : Registry) (ns : List Nat) : Prop where
  numbered : ∀ {id : String} {n}, r.sessions[id]? = some n →
    n < r.created.size ∧ ∃ user now, id = idText user now (n + 1)
  apart : ∀ {id id' : String} {n}, r.sessions[id]? = some n → r.sessions[id']? = some n → id = id'
  gone : ∀ n ∈ ns, n < r.created.size ∧ ∀ id : String, r.sessions[id]? ≠ some n
  gone_once : ns.Nodup
  all : ∀ n < r.created.size, n ∈ ns ∨ ∃ id : String, r.sessions[id]? = some n

variable {ns : List Nat}

lemma settled_empty (ttl : Time) : Settled { ttl } [] :=
  ⟨by simp, by simp, by simp, List.nodup_nil, by simp⟩

lemma Settled.perm (h : r.Settled ns) :
    (r.registered ++ ns).Perm (List.range r.created.size) := by
  -- distinct ids lead to distinct numbers
  have hr : r.registered.Nodup := by
    rw [registered, List.Nodup, List.pairwise_map]
    refine r.sessions.distinct_keys_toList.imp_of_mem fun {a b} ha hb hne e => ?_
    rw [Std.HashMap.mem_toList_iff_getElem?_eq_some] at ha hb
    rw [e] at ha
    exact absurd (h.apart ha hb) (by simpa using hne)
  have hd : r.registered.Disjoint ns := fun n hn hg => by
    obtain ⟨id, hid⟩ := mem_registered.mp hn
    exact (h.gone n hg).2 id hid
  refine (List.perm_ext_iff_of_nodup (hr.append h.gone_once hd) List.nodup_range).mpr fun n => ?_
  rw [List.mem_append, mem_registered, List.mem_range]
  constructor
  · rintro (⟨id, hid⟩ | hg)
    · exact (h.numbered hid).1
    · exact (h.gone n hg).1
  · exact fun hn => (h.all n hn).symm

/-- Registered ids may be taken out. -/
lemma Settled.remove (h : r.Settled ns) {ids : List String} (hids : ids.Nodup)
    (hc : r'.created.size = r.created.size)
    (hs : ∀ id : String, r'.sessions[id]? = if id ∈ ids then none else r.sessions[id]?) :
    r'.Settled (ns ++ ids.filterMap (r.sessions[·]?)) := by
  have hold : ∀ {id : String} {n : Nat}, r'.sessions[id]? = some n →
      id ∉ ids ∧ r.sessions[id]? = some n := by
    intro id n hn
    rw [hs] at hn
    split at hn
    · cases hn
    · next hid => exact ⟨hid, hn⟩
  refine
    { numbered := fun hn => hc ▸ h.numbered (hold hn).2
      apart := fun hn hn' => h.apart (hold hn).2 (hold hn').2
      gone := fun n hn => ?_
      gone_once := ?_
      all := fun n hn => ?_ }
  · rcases List.mem_append.mp hn with hg | ht
    · exact ⟨hc ▸ (h.gone n hg).1, fun id hid => (h.gone n hg).2 id (hold hid).2⟩
    · obtain ⟨id, hid, hidn⟩ := List.mem_filterMap.mp ht
      refine ⟨hc ▸ (h.numbered hidn).1, fun id' hid' => ?_⟩
      obtain ⟨hnot, hidn'⟩ := hold hid'
      exact hnot (h.apart hidn hidn' ▸ hid)
  · refine h.gone_once.append (hids.filterMap fun _ _ _ hn hn' => h.apart hn hn') ?_
    intro n hg ht
    obtain ⟨id, -, hidn⟩ := List.mem_filterMap.mp ht
    exact (h.gone n hg).2 id hidn
  · rcases h.all n (hc ▸ hn) with hg | ⟨id, hidn⟩
    · exact .inl (List.mem_append_left _ hg)
    · by_cases hid : id ∈ ids
      · exact .inl (List.mem_append_right _ (List.mem_filterMap.mpr ⟨id, hid, hidn⟩))
      · exact .inr ⟨id, by rw [hs, if_neg hid, hidn]⟩

/-- A new id is not registered. -/
lemma Settled.newId_ne (h : r.Settled ns) (user : String) (now : Time) {id : String} {n : Nat}
    (hn : r.sessions[id]? = some n) : r.newId user now ≠ id := by
  rintro rfl
  obtain ⟨hlt, user', now', hid⟩ := h.numbered hn
  have := idText_inj ((newId_eq r user now).symm.trans hid)
  omega

/-- The new session is registered, and the others are where they were. -/
lemma Settled.openSession (h : r.Settled ns) (user : String) (now : Time) :
    (r.openSession user now).1.Settled ns := by
  have hcases : ∀ {id : String} {n : Nat}, (r.openSession user now).1.sessions[id]? = some n →
      (r.newId user now = id ∧ n = r.created.size) ∨ r.sessions[id]? = some n := by
    intro id n hn
    rw [openSession_sessions] at hn
    split at hn
    · next hid => exact .inl ⟨hid, (Option.some.inj hn).symm⟩
    · exact .inr hn
  have hsize := r.openSession_created_size user now
  refine
    { numbered := fun hn => ?_
      apart := fun hn hn' => ?_
      gone := fun n hg => ?_
      gone_once := h.gone_once
      all := fun n hn => ?_ }
  · rcases hcases hn with ⟨rfl, rfl⟩ | hn
    · exact ⟨by omega, user, now, newId_eq r user now⟩
    · obtain ⟨hlt, hid⟩ := h.numbered hn
      exact ⟨by omega, hid⟩
  · rcases hcases hn with ⟨rfl, rfl⟩ | hn <;> rcases hcases hn' with ⟨rfl, he⟩ | hn'
    · rfl
    · exact absurd (h.numbered hn').1 (Nat.lt_irrefl _)
    · exact absurd (he ▸ (h.numbered hn).1) (Nat.lt_irrefl _)
    · exact h.apart hn hn'
  · obtain ⟨hlt, hg⟩ := h.gone n hg
    refine ⟨by omega, fun id hn => ?_⟩
    rcases hcases hn with ⟨-, rfl⟩ | hn
    · exact Nat.lt_irrefl _ hlt
    · exact hg id hn
  · rcases Nat.lt_succ_iff_lt_or_eq.mp (hsize ▸ hn) with hlt | rfl
    · rcases h.all n hlt with hg | ⟨id, hid⟩
      · exact .inl hg
      · exact .inr ⟨id, by rw [openSession_sessions, if_neg (h.newId_ne user now hid), hid]⟩
    · exact .inr ⟨r.newId user now, by rw [openSession_sessions, if_pos rfl]⟩

lemma Settled.update (h : r.Settled ns) (n : Nat) (f : Session → Session) :
    (r.update n f).Settled ns where
  numbered hn := by simpa using h.numbered hn
  apart := h.apart
  gone m hm := by simpa using h.gone m hm
  gone_once := h.gone_once
  all m hm := h.all m (by simpa using hm)

/-- A look-up takes out the session that it finds over, and no other. -/
lemma lookUp_cases (r : Registry) (user : String) (now : Time) :
    (∃ n, r.over? user now = none ∧
      r.obtain user now = (r.update n (·.touch now r.ttl), n, .kept)) ∨
    (r.over? user now = none ∧
      r.obtain user now = ((r.openSession user now).1, r.created.size, .opened)) ∨
    ∃ id n, r.sessions[id]? = some n ∧ r.over? user now = some n ∧
      r.obtain user now = (((r.remove id).openSession user now).1, r.created.size,
        if (r.session n).state.isTerminal then .afterExit else .afterExpiry id) := by
  rcases r.obtain_cases user now with ⟨id, n, hu, hn, hl, e⟩ | ⟨hleft, e⟩ | ⟨id, n, hu, hn, hl, e⟩
  · exact .inl ⟨n, by simp [over?, current?, hu, hn, hl], e⟩
  · refine .inr (.inl ⟨?_, e⟩)
    rcases hu : r.users[user]? with _ | id
    · simp [over?, current?, hu]
    · simp [over?, current?, hu, hleft id hu]
  · rw [remove_created] at e
    exact .inr (.inr ⟨id, n, hn, by simp [over?, current?, hu, hn, hl], e⟩)

lemma Settled.perform (h : r.Settled ns) (op : Op) :
    (r.perform op).Settled (ns ++ (r.departures op).map (·.session)) := by
  cases op with
  | obtain user now =>
    simp only [Registry.perform, departures, List.map_map]
    rcases r.lookUp_cases user now with
      ⟨n, ho, e⟩ | ⟨ho, e⟩ | ⟨id, n, hn, ho, e⟩ <;> rw [e, ho]
    · simpa using h.update n _
    · simpa using h.openSession user now
    · have hr : (r.remove id).Settled (ns ++ [id].filterMap (r.sessions[·]?)) :=
        h.remove (List.nodup_singleton id) (by rw [remove_created]) fun id' => by
          simp [remove_sessions, eq_comm]
      simpa [hn] using hr.openSession user now
  | sweep now =>
    have hs := h.remove (r.expired_nodup now) (by rw [sweep_created]) (r.sweep_sessions now)
    simpa [Registry.perform, departures, Function.comp_def] using hs
  | delete user session =>
    have hd : (r.delete user session).1.Settled (ns ++ [session].filterMap (r.sessions[·]?)) :=
      h.remove (List.nodup_singleton session) (by rw [delete_created]) fun id => by
        simp [delete_sessions, eq_comm]
    rcases hs : r.sessions[session]? with _ | n <;>
      simpa [Registry.perform, departures, hs] using hd
  | write n f => simpa [Registry.perform, departures] using h.update n f

lemma Settled.run (h : r.Settled ns) (ops : List Op) :
    (r.run ops).Settled (ns ++ (r.departed ops).map (·.session)) := by
  induction ops generalizing r ns with
  | nil => simpa using h
  | cons op ops ih => simpa [List.append_assoc] using ih (h.perform op)

end Registry

/-! ### The counter of completed sessions -/

namespace Simulation

/-- An operation on the registry of a simulation, with what is counted for it. -/
def operate (sim : Simulation) : Registry.Op → Simulation
  | .obtain user now => (sim.obtain user now).1
  | .sweep now => (sim.sweep now).1
  | .delete user session => sim.drop user session
  | .write n f => { sim with registry := sim.registry.update n f }

def operateAll (sim : Simulation) (ops : List Registry.Op) : Simulation := ops.foldl operate sim

lemma operate_registry (sim : Simulation) (op : Registry.Op) :
    (sim.operate op).registry = sim.registry.perform op := by
  cases op with
  | obtain user now => exact sim.obtain_registry user now
  | sweep now => exact sim.sweep_registry now
  | delete user session => rfl
  | write n f => rfl

lemma obtain_lapsed (sim : Simulation) (user : String) (now : Time) :
    (sim.obtain user now).1.completed =
      sim.completed + sim.registry.takes .lapsed (.obtain user now) := by
  rw [obtain_completed, Registry.takes]
  rcases sim.registry.lookUp_cases user now with
    ⟨n, ho, e⟩ | ⟨ho, e⟩ | ⟨id, n, -, ho, e⟩ <;> rw [e, ho]
  · rfl
  · rfl
  · cases hx : (sim.registry.session n).state.isTerminal <;> simp [Origin.replaced, hx]

/-- The registry itself counts what it finds to have expired, be it at a sweep or at a look-up. -/
lemma operate_completed (sim : Simulation) (op : Registry.Op) :
    (sim.operate op).completed =
      sim.completed + sim.registry.takes .swept op + sim.registry.takes .lapsed op := by
  cases op with
  | obtain user now => exact sim.obtain_lapsed user now
  | sweep now => exact sim.sweep_completed now
  | delete user session => rfl
  | write n f => rfl

lemma operateAll_registry (sim : Simulation) (ops : List Registry.Op) :
    (sim.operateAll ops).registry = sim.registry.run ops := by
  induction ops generalizing sim with
  | nil => rfl
  | cons op ops ih => rw [Registry.run_cons, ← operate_registry]; exact ih (sim.operate op)

lemma operateAll_completed (sim : Simulation) (ops : List Registry.Op) :
    (sim.operateAll ops).completed =
      sim.completed + sim.registry.total .swept ops + sim.registry.total .lapsed ops := by
  induction ops generalizing sim with
  | nil => rfl
  | cons op ops ih =>
    have h := ih (sim.operate op)
    rw [operate_completed, operate_registry] at h
    simp only [operateAll, List.foldl_cons, Registry.total] at h ⊢
    omega

/-- **Every session is accounted for exactly once.** Whatever is looked up, swept, deleted or
written through handles, the numbers of the registered sessions and of those that have left are
together the numbers of all sessions ever created, each once. So the sessions created are those
registered, those that a deletion said it removed, those that sweeps counted, and those that
look-ups replaced because they had expired or because their visitors had left. The registry counts
as completed those that sweeps removed and those replaced for having expired. -/
theorem operateAll_accounts (sim : Simulation) (ttl : Time) (ops : List Registry.Op) :
    let r : Registry := { ttl }
    let sim' := { sim with registry := r }.operateAll ops
    (sim'.registry.registered ++ (r.departed ops).map (·.session)).Perm
        (List.range sim'.registry.created.size) ∧
      sim'.registry.created.size =
        sim'.registry.size + r.total .deleted ops + r.total .swept ops + r.total .lapsed ops +
          r.total .left ops ∧
      sim'.completed = sim.completed + r.total .swept ops + r.total .lapsed ops := by
  intro r sim'
  have hr : sim'.registry = r.run ops := operateAll_registry _ ops
  have hperm : (sim'.registry.registered ++ (r.departed ops).map (·.session)).Perm
      (List.range sim'.registry.created.size) := by
    rw [hr]
    exact ((Registry.settled_empty ttl).run ops).perm
  refine ⟨hperm, ?_, operateAll_completed _ ops⟩
  have hlen := hperm.length_eq
  have hways := length_eq_ways ((r.departed ops).map (·.way))
  rw [List.length_map] at hways
  simp only [Registry.count_departed] at hways
  rw [List.length_append, Registry.length_registered, List.length_map, List.length_range] at hlen
  omega

end Simulation

end ShopTraffic
