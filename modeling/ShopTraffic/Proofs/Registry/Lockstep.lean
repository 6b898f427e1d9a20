import Mathlib.Tactic.Common
import ShopTraffic.Registry

/-!
The two tables of the registry stay in lockstep: whatever is looked up, swept, deleted or written
through a handle, each visitor's entry leads to a session of that visitor, and every registered
session is the one that its visitor's entry leads to.

The invariant says more than the tables do: the number of a session can be read off its id. So the
id of a new session is never the id of an older one.
-/

namespace ShopTraffic.Session

lemma isLive_iff (s : Session) (now : Time) :
    s.isLive now = true ↔ s.state ≠ .exit ∧ now < s.expiry := by
  simp [isLive, isExpired, State.isTerminal]

end ShopTraffic.Session

namespace ShopTraffic.Registry

/-! ### Session ids -/

/-- The id of the session with a number, counted from one. -/
def idText (user : String) (now : Time) (number : Nat) : String :=
  "sess_" ++ user ++ "_" ++ toString now ++ "_" ++ toString number

lemma newId_eq (r : Registry) (user : String) (now : Time) :
    r.newId user now = idText user now (r.created.size + 1) := rfl

lemma eq_of_append_cons {c : Char} {a b d e : List Char} (hd : c ∉ d) (he : c ∉ e)
    (h : a ++ c :: d = b ++ c :: e) : d = e := by
  rcases List.append_eq_append_iff.mp h with ⟨t, -, ht⟩ | ⟨t, -, ht⟩
  · cases t with
    | nil => simpa using ht
    | cons x t =>
      obtain ⟨-, rfl⟩ : c = x ∧ d = t ++ c :: e := by simpa using ht
      exact absurd (by simp) hd
  · cases t with
    | nil => simpa using ht.symm
    | cons x t =>
      obtain ⟨-, rfl⟩ : c = x ∧ e = t ++ c :: d := by simpa using ht
      exact absurd (by simp) he

lemma idText_toList (user : String) (now : Time) (n : Nat) :
    ∃ front, (idText user now n).toList = front ++ '_' :: Nat.toDigits 10 n := by
  refine ⟨"sess_".toList ++ user.toList ++ "_".toList ++ (toString now).toList, ?_⟩
  simp [idText, String.toList_append]

/-- **The number of a session can be read off its id**, whatever the visitor is called: no digit is
an underscore. -/
lemma idText_inj {u u' : String} {t t' : Time} {n n' : Nat} (h : idText u t n = idText u' t' n') :
    n = n' := by
  obtain ⟨a, ha⟩ := idText_toList u t n
  obtain ⟨b, hb⟩ := idText_toList u' t' n'
  have hd : Nat.toDigits 10 n = Nat.toDigits 10 n' :=
    eq_of_append_cons Nat.underscore_not_in_toDigits Nat.underscore_not_in_toDigits
      (ha.symm.trans ((congrArg String.toList h).trans hb))
  rw [← Nat.ofDigitChars_ten_toDigits (n := n), hd, Nat.ofDigitChars_ten_toDigits]

/-! ### What can happen to a registry -/

inductive Op
  | obtain (user : String) (now : Time)
  | sweep (now : Time)
  | delete (user session : String)
  | write (handle : Nat) (change : Session → Session)

def perform (r : Registry) : Op → Registry
  | .obtain user now => (r.obtain user now).1
  | .sweep now => (r.sweep now).1
  | .delete user session => (r.delete user session).1
  | .write handle change => r.update handle change

/-- Callers delete a session only for its own visitor, and no handle is used to write an id or the
name of a visitor. -/
def Allowed (r : Registry) : Op → Prop
  | .obtain _ _ | .sweep _ => True
  | .delete user session => ∀ n, r.sessions[session]? = some n → (r.session n).user = user
  | .write n change =>
    (change (r.session n)).id = (r.session n).id ∧ (change (r.session n)).user = (r.session n).user

/-- The registries that come of an empty one. -/
inductive Reached (ttl : Time) : Registry → Prop
  | empty : Reached ttl { ttl }
  | perform {r : Registry} (op : Op) (h : Reached ttl r) (ha : r.Allowed op) :
      Reached ttl (r.perform op)

/-- The tables match, and sessions are numbered by their ids. -/
structure Sound (r : Registry) : Prop where
  numbered : ∀ n < r.created.size, ∃ user now, (r.session n).id = idText user now (n + 1)
  named : ∀ {id n}, r.sessions[id]? = some n → n < r.created.size ∧ (r.session n).id = id
  linked : ∀ {id n}, r.sessions[id]? = some n → r.users[(r.session n).user]? = some id
  led : ∀ {user id}, r.users[user]? = some id →
    ∃ n, r.sessions[id]? = some n ∧ (r.session n).user = user
  sizes : r.users.size = r.sessions.size

lemma sound_empty (ttl : Time) : Sound { ttl } :=
  ⟨by simp, by simp, by simp, by simp, by simp⟩

variable {r : Registry}

/-! ### Writing through a handle -/

@[simp] lemma update_sessions (r : Registry) (n : Nat) (f : Session → Session) :
    (r.update n f).sessions = r.sessions := rfl

@[simp] lemma update_users (r : Registry) (n : Nat) (f : Session → Session) :
    (r.update n f).users = r.users := rfl

@[simp] lemma update_size (r : Registry) (n : Nat) (f : Session → Session) :
    (r.update n f).created.size = r.created.size := by simp [update]

lemma session_update_self {n : Nat} (h : n < r.created.size) (f : Session → Session) :
    (r.update n f).session n = f (r.session n) := by
  simp [session, update, Array.getElem_modify, h]

lemma session_update_ne {m n : Nat} (h : n ≠ m) (f : Session → Session) :
    (r.update n f).session m = r.session m := by
  simp [session, update, Array.getElem?_modify, h]

/-- A write may as well take the session from its result. -/
lemma update_session (r : Registry) (n : Nat) (s : Session) :
    (r.update n fun _ => (r.update n fun _ => s).session n) = r.update n fun _ => s := by
  by_cases h : n < r.created.size
  · simp only [session_update_self h]
  · have hsame (f : Session → Session) : r.created.modify n f = r.created := by
      refine Array.ext_getElem? fun i => ?_
      rw [Array.getElem?_modify]
      split
      · next hi => simp [← hi, Nat.le_of_not_lt h]
      · rfl
    simp only [update, hsame]

/-- What a write keeps of the session that is written it keeps of every session. -/
lemma session_update_of_kept {β : Type} {n : Nat} {f : Session → Session} (g : Session → β)
    (h : g (f (r.session n)) = g (r.session n)) (m : Nat) :
    g ((r.update n f).session m) = g (r.session m) := by
  by_cases hn : n = m
  · subst hn
    by_cases hb : n < r.created.size
    · rw [session_update_self hb, h]
    · simp [session, update, hb]
  · rw [session_update_ne hn]

lemma Sound.update (h : r.Sound) {n : Nat} {f : Session → Session}
    (hf : r.Allowed (.write n f)) : (r.update n f).Sound where
  numbered m hm := by
    rw [session_update_of_kept Session.id hf.1]
    exact h.numbered m (by simpa using hm)
  named hm := by
    rw [session_update_of_kept Session.id hf.1]
    simpa using h.named hm
  linked hm := by
    rw [session_update_of_kept Session.user hf.2]
    exact h.linked hm
  led hu := by
    obtain ⟨m, hm, hs⟩ := h.led hu
    exact ⟨m, hm, by rw [session_update_of_kept Session.user hf.2, hs]⟩
  sizes := h.sizes

/-! ### Taking a session out -/

def without (r : Registry) (id : String) (n : Nat) : Registry :=
  { r with sessions := r.sessions.erase id, users := r.users.erase (r.session n).user }

@[simp] lemma session_without (r : Registry) (id : String) (n m : Nat) :
    (r.without id n).session m = r.session m := rfl

@[simp] lemma created_without (r : Registry) (id : String) (n : Nat) :
    (r.without id n).created = r.created := rfl

lemma sessions_without (r : Registry) (id id' : String) (n : Nat) :
    (r.without id n).sessions[id']? = if id = id' then none else r.sessions[id']? := by
  simp [without, Std.HashMap.getElem?_erase]

lemma users_without (r : Registry) (id user : String) (n : Nat) :
    (r.without id n).users[user]? =
      if (r.session n).user = user then none else r.users[user]? := by
  simp [without, Std.HashMap.getElem?_erase]

/-- Two registered sessions of one visitor are one session. -/
lemma id_eq_of_linked
    (h : ∀ {id : String} {n : Nat}, r.sessions[id]? = some n →
      r.users[(r.session n).user]? = some id)
    {id id' : String} {n n' : Nat} (hn : r.sessions[id]? = some n)
    (hn' : r.sessions[id']? = some n') (hu : (r.session n).user = (r.session n').user) :
    id = id' := by
  have := h hn
  rw [hu, h hn'] at this
  exact (Option.some.inj this).symm

lemma Sound.id_eq (h : r.Sound) {id id' : String} {n n' : Nat} (hn : r.sessions[id]? = some n)
    (hn' : r.sessions[id']? = some n') (hu : (r.session n).user = (r.session n').user) :
    id = id' :=
  id_eq_of_linked h.linked hn hn' hu

lemma Sound.without (h : r.Sound) {id : String} {n : Nat} (hn : r.sessions[id]? = some n) :
    (r.without id n).Sound where
  numbered := h.numbered
  named {id' m} hm := by
    rw [sessions_without] at hm
    split at hm
    · exact absurd hm (by simp)
    · exact h.named hm
  linked {id' m} hm := by
    rw [sessions_without] at hm
    split at hm
    · exact absurd hm (by simp)
    · next hid =>
      have hu : (r.session n).user ≠ (r.session m).user := fun e => hid (h.id_eq hn hm e)
      rw [users_without, session_without, if_neg hu]
      exact h.linked hm
  led {user id'} hu := by
    rw [users_without] at hu
    split at hu
    · exact absurd hu (by simp)
    · next hne =>
      obtain ⟨m, hm, hs⟩ := h.led hu
      refine ⟨m, ?_, hs⟩
      rw [sessions_without, if_neg, hm]
      rintro rfl
      exact hne (by rw [← hs, Option.some.inj (hn.symm.trans hm)])
  sizes := by
    have h1 : id ∈ r.sessions := by simp [Std.HashMap.mem_iff_isSome_getElem?, hn]
    have h2 : (r.session n).user ∈ r.users := by
      simp [Std.HashMap.mem_iff_isSome_getElem?, h.linked hn]
    simp [Registry.without, Std.HashMap.size_erase, h1, h2, h.sizes]

lemma remove_of_linked {id : String} {n : Nat} (hn : r.sessions[id]? = some n)
    (hu : r.users[(r.session n).user]? = some id) : r.remove id = r.without id n := by
  simp only [remove, hn, unlink]
  exact if_pos hu

lemma Sound.remove_eq (h : r.Sound) {id : String} {n : Nat} (hn : r.sessions[id]? = some n) :
    r.remove id = r.without id n :=
  remove_of_linked hn (h.linked hn)

lemma remove_of_unknown {id : String} (hn : r.sessions[id]? = none) : r.remove id = r := by
  simp [remove, hn]

lemma Sound.delete_eq (h : r.Sound) {id : String} {n : Nat} (hn : r.sessions[id]? = some n) :
    (r.delete (r.session n).user id).1 = r.without id n := by
  have hu := h.linked hn
  simp only [delete, unlink]
  exact if_pos hu

/-! ### Putting a session in -/

@[simp] lemma openSession_handle (r : Registry) (user : String) (now : Time) :
    (r.openSession user now).2 = r.created.size := rfl

lemma session_openSession_old (user : String) (now : Time) {n : Nat} (h : n < r.created.size) :
    (r.openSession user now).1.session n = r.session n := by
  simp [openSession, session, Array.getElem?_push, Nat.ne_of_lt h]

lemma session_openSession_new (user : String) (now : Time) :
    (r.openSession user now).1.session r.created.size =
      Session.begin (r.newId user now) user now r.ttl := by
  simp [openSession, session]

/-- **No two sessions ever have one id.** -/
lemma Sound.number_eq (h : r.Sound) {m n : Nat} (hm : m < r.created.size) (hn : n < r.created.size)
    (e : (r.session m).id = (r.session n).id) : m = n := by
  obtain ⟨u, t, hu⟩ := h.numbered m hm
  obtain ⟨v, w, hv⟩ := h.numbered n hn
  have := idText_inj (hu.symm.trans (e.trans hv))
  omega

/-- Any session may be deleted for its own visitor, registered or not. -/
lemma Sound.allowed_delete (h : r.Sound) {n : Nat} (hn : n < r.created.size) :
    r.Allowed (.delete (r.session n).user (r.session n).id) := by
  intro m hm
  obtain ⟨hlt, hid⟩ := h.named hm
  rw [h.number_eq hlt hn hid]

/-- A new id is not the id of any session so far. -/
lemma newId_ne_of_numbered
    (h : ∀ n < r.created.size, ∃ user now, (r.session n).id = idText user now (n + 1))
    (user : String) (now : Time) {n : Nat} (hn : n < r.created.size) :
    r.newId user now ≠ (r.session n).id := by
  intro e
  obtain ⟨u, t, ht⟩ := h n hn
  have := idText_inj ((newId_eq r user now).symm.trans (e.trans ht))
  omega

lemma Sound.newId_ne (h : r.Sound) (user : String) (now : Time) {n : Nat}
    (hn : n < r.created.size) : r.newId user now ≠ (r.session n).id :=
  newId_ne_of_numbered h.numbered user now hn

lemma Sound.newId_fresh (h : r.Sound) (user : String) (now : Time) :
    r.sessions[r.newId user now]? = none := by
  rcases hm : r.sessions[r.newId user now]? with _ | n
  · rfl
  · obtain ⟨hn, hid⟩ := h.named hm
    exact absurd hid.symm (h.newId_ne user now hn)

lemma Sound.openSession (h : r.Sound) {user : String} (hu : r.users[user]? = none) (now : Time) :
    (r.openSession user now).1.Sound where
  numbered n hn := by
    have hn : n < r.created.size + 1 := by simpa [Registry.openSession] using hn
    rcases Nat.lt_succ_iff_lt_or_eq.mp hn with hlt | rfl
    · rw [session_openSession_old user now hlt]
      exact h.numbered n hlt
    · exact ⟨user, now, by rw [session_openSession_new]; rfl⟩
  named {id n} hm := by
    simp only [Registry.openSession, Std.HashMap.getElem?_insert, beq_iff_eq] at hm
    split at hm
    · next hid =>
      obtain rfl := Option.some.inj hm
      exact ⟨by simp [Registry.openSession], by rw [session_openSession_new, ← hid]; rfl⟩
    · obtain ⟨hn, hs⟩ := h.named hm
      rw [session_openSession_old user now hn]
      exact ⟨by simp [Registry.openSession]; omega, hs⟩
  linked {id n} hm := by
    simp only [Registry.openSession, Std.HashMap.getElem?_insert, beq_iff_eq] at hm
    split at hm
    · next hid =>
      obtain rfl := Option.some.inj hm
      rw [session_openSession_new]
      simp [Registry.openSession, Session.begin, hid]
    · obtain ⟨hn, -⟩ := h.named hm
      have hl := h.linked hm
      have hne : user ≠ (r.session n).user := by rintro rfl; simp [hu] at hl
      rw [session_openSession_old user now hn]
      simpa [Registry.openSession, Std.HashMap.getElem?_insert, hne] using hl
  led {v id} hv := by
    simp only [Registry.openSession, Std.HashMap.getElem?_insert, beq_iff_eq] at hv
    split at hv
    · next hvu =>
      obtain rfl := Option.some.inj hv
      refine ⟨r.created.size, by simp [Registry.openSession], ?_⟩
      rw [session_openSession_new, ← hvu]
      rfl
    · obtain ⟨n, hm, hs⟩ := h.led hv
      have hne : r.newId user now ≠ id := by
        rintro rfl
        simp [h.newId_fresh] at hm
      refine ⟨n, by simpa [Registry.openSession, Std.HashMap.getElem?_insert, hne] using hm, ?_⟩
      rw [session_openSession_old user now (h.named hm).1, hs]
  sizes := by
    have h1 : user ∉ r.users := by simp [Std.HashMap.mem_iff_isSome_getElem?, hu]
    have h2 : r.newId user now ∉ r.sessions := by
      simp [Std.HashMap.mem_iff_isSome_getElem?, h.newId_fresh]
    simp [Registry.openSession, Std.HashMap.size_insert, h1, h2, h.sizes]

/-! ### The operations -/

/-- What a look-up does, whether or not the tables match: it prolongs a live session, or opens one
where none is found, or opens one in place of a session that is over. -/
lemma obtain_cases (r : Registry) (user : String) (now : Time) :
    (∃ id n, r.users[user]? = some id ∧ r.sessions[id]? = some n ∧ (r.session n).isLive now = true ∧
      r.obtain user now = (r.update n (·.touch now r.ttl), n, .kept)) ∨
    ((∀ id : String, r.users[user]? = some id → r.sessions[id]? = none) ∧
      r.obtain user now = ((r.openSession user now).1, r.created.size, .opened)) ∨
    (∃ id n, r.users[user]? = some id ∧ r.sessions[id]? = some n ∧
      (r.session n).isLive now = false ∧
      r.obtain user now = (((r.remove id).openSession user now).1, (r.remove id).created.size,
        if (r.session n).state.isTerminal then .afterExit else .afterExpiry id)) := by
  rcases hu : r.users[user]? with _ | id
  · exact .inr (.inl ⟨nofun, by simp [obtain, hu]⟩)
  rcases hn : r.sessions[id]? with _ | n
  · refine .inr (.inl ⟨fun id' hid => ?_, by simp [obtain, hu, hn]⟩)
    rw [← Option.some.inj hid, hn]
  rcases hl : (r.session n).isLive now with _ | _
  · exact .inr (.inr ⟨id, n, rfl, hn, hl, by simp [obtain, hu, hn, hl]⟩)
  · exact .inl ⟨id, n, rfl, hn, hl, by simp [obtain, hu, hn, hl]⟩

/-- Where the tables match, every entry leads to a session of its visitor. -/
lemma Sound.obtain_cases (h : r.Sound) (user : String) (now : Time) :
    (∃ id n, r.users[user]? = some id ∧ r.sessions[id]? = some n ∧ (r.session n).isLive now = true ∧
      r.obtain user now = (r.update n (·.touch now r.ttl), n, .kept)) ∨
    (r.users[user]? = none ∧
      r.obtain user now = ((r.openSession user now).1, r.created.size, .opened)) ∨
    (∃ id n, r.users[user]? = some id ∧ r.sessions[id]? = some n ∧
      (r.session n).isLive now = false ∧ (r.session n).user = user ∧
      r.obtain user now = (((r.without id n).openSession user now).1, r.created.size,
        if (r.session n).state.isTerminal then .afterExit else .afterExpiry id)) := by
  rcases r.obtain_cases user now with hkept | ⟨hleft, e⟩ | ⟨id, n, hu, hn, hl, e⟩
  · exact .inl hkept
  · refine .inr (.inl ⟨Option.eq_none_iff_forall_ne_some.mpr fun id hu => ?_, e⟩)
    obtain ⟨n, hn, -⟩ := h.led hu
    cases hn.symm.trans (hleft id hu)
  · obtain ⟨m, hm, hs⟩ := h.led hu
    obtain rfl := Option.some.inj (hn.symm.trans hm)
    rw [h.remove_eq hn] at e
    exact .inr (.inr ⟨id, n, hu, hn, hl, hs, e⟩)

lemma allowed_touch (r : Registry) (n : Nat) (now ttl : Time) :
    r.Allowed (.write n (·.touch now ttl)) := ⟨rfl, rfl⟩

lemma Sound.obtain (h : r.Sound) (user : String) (now : Time) : (r.obtain user now).1.Sound := by
  rcases h.obtain_cases user now with ⟨id, n, -, -, -, e⟩ | ⟨hu, e⟩ | ⟨id, n, -, hn, -, hs, e⟩ <;>
    rw [e]
  · exact h.update (r.allowed_touch n now r.ttl)
  · exact h.openSession hu now
  · exact (h.without hn).openSession (by rw [users_without, if_pos hs]) now

lemma Sound.remove (h : r.Sound) (id : String) : (r.remove id).Sound := by
  rcases hn : r.sessions[id]? with _ | n
  · rwa [remove_of_unknown hn]
  · rw [h.remove_eq hn]
    exact h.without hn

lemma Sound.foldl_remove (h : r.Sound) (ids : List String) :
    (ids.foldl Registry.remove r).Sound := by
  induction ids generalizing r with
  | nil => exact h
  | cons id ids ih => exact ih (h.remove id)

lemma Sound.sweep (h : r.Sound) (now : Time) : (r.sweep now).1.Sound :=
  h.foldl_remove (r.expired now)

/-- An id that is not registered is in no entry, so deleting it changes no table. -/
lemma Sound.delete_unknown (h : r.Sound) {id : String} (hn : r.sessions[id]? = none)
    (user : String) : (r.delete user id).1.Sound := by
  have hu : r.users[user]? ≠ some id := by
    intro hu
    obtain ⟨n, hm, -⟩ := h.led hu
    simp [hn] at hm
  have hs : ∀ id' : String, (r.sessions.erase id)[id']? = r.sessions[id']? := by
    intro id'
    rw [Std.HashMap.getElem?_erase]
    split
    · next he => rw [← hn, eq_of_beq he]
    · rfl
  have hmem : id ∉ r.sessions := by simp [Std.HashMap.mem_iff_isSome_getElem?, hn]
  have e : (r.delete user id).1 = { r with sessions := r.sessions.erase id } := by
    simp only [Registry.delete, unlink]
    exact if_neg hu
  rw [e]
  exact
    { numbered := h.numbered
      named := fun hm => h.named ((hs _).symm.trans hm)
      linked := fun hm => h.linked ((hs _).symm.trans hm)
      led := fun hv => (h.led hv).imp fun n hm => ⟨(hs _).trans hm.1, hm.2⟩
      sizes := by simp [Std.HashMap.size_erase, hmem, h.sizes] }

lemma Sound.delete (h : r.Sound) {user id : String} (ha : r.Allowed (.delete user id)) :
    (r.delete user id).1.Sound := by
  rcases hn : r.sessions[id]? with _ | n
  · exact h.delete_unknown hn user
  · obtain rfl := ha n hn
    rw [h.delete_eq hn]
    exact h.without hn

lemma Sound.perform (h : r.Sound) {op : Op} (ha : r.Allowed op) : (r.perform op).Sound := by
  cases op with
  | obtain user now => exact h.obtain user now
  | sweep now => exact h.sweep now
  | delete user id => exact h.delete ha
  | write n f => exact h.update ha

lemma Reached.sound {ttl : Time} (h : Reached ttl r) : r.Sound := by
  induction h with
  | empty => exact sound_empty ttl
  | perform op _ ha ih => exact ih.perform ha

/-! ### Lockstep -/

lemma Sound.current?_eq (h : r.Sound) (user : String) :
    (r.current? user).isSome = r.containsUser user := by
  rcases hu : r.users[user]? with _ | id
  · simp [current?, containsUser, hu, Std.HashMap.contains_eq_isSome_getElem?]
  · obtain ⟨n, hn, -⟩ := h.led hu
    simp [current?, containsUser, hu, hn, Std.HashMap.contains_eq_isSome_getElem?]

lemma Sound.isConsistent (h : r.Sound) : r.isConsistent = true := by
  simp only [Registry.isConsistent, Bool.and_eq_true, decide_eq_true_eq, List.all_eq_true]
  refine ⟨h.sizes, fun e he => ?_⟩
  obtain ⟨n, hn, hs⟩ := h.led (Std.HashMap.mem_toList_iff_getElem?_eq_some.mp he)
  simp [hn, hs]

/-- **The tables stay in lockstep.** After every operation an entry leads to a registered session of
its visitor, a registered session is where its own visitor's entry leads, and there are as many
entries as sessions. So no visitor has two registered sessions, the registry finds itself
consistent, and it knows a visitor exactly if it finds a session for that visitor. -/
theorem reached_lockstep {ttl : Time} {r : Registry} (h : Reached ttl r) :
    (∀ user id : String, r.users[user]? = some id →
      ∃ n, r.sessions[id]? = some n ∧ (r.session n).id = id ∧ (r.session n).user = user) ∧
    (∀ (id : String) (n : Nat), r.sessions[id]? = some n →
      (r.session n).id = id ∧ r.users[(r.session n).user]? = some id) ∧
    r.users.size = r.sessions.size ∧
    (∀ (id id' : String) (n n' : Nat), r.sessions[id]? = some n → r.sessions[id']? = some n' →
      (r.session n).user = (r.session n').user → id = id' ∧ n = n') ∧
    r.isConsistent = true ∧
    ∀ user, r.containsUser user = true ↔ (r.current? user).isSome = true := by
  have hs := h.sound
  refine ⟨fun user id hu => ?_, fun id n hn => ⟨(hs.named hn).2, hs.linked hn⟩, hs.sizes,
    fun id id' n n' hn hn' hu => ?_, hs.isConsistent, fun user => by rw [hs.current?_eq]⟩
  · obtain ⟨n, hn, hv⟩ := hs.led hu
    exact ⟨n, hn, (hs.named hn).2, hv⟩
  · obtain rfl := hs.id_eq hn hn' hu
    exact ⟨rfl, Option.some.inj (hn.symm.trans hn')⟩

/-- Ann leaves the shop behind the registry's back, comes again at an earlier time, and is deleted
under the id of the visit that is over. -/
theorem reached_lockstep_late_delete :
    let r₁ := ({ ttl := 10 } : Registry).perform (.obtain "ann" 5)
    let r₂ := r₁.perform (.write 0 fun s => { s with state := .exit })
    let r₃ := r₂.perform (.obtain "ann" 3)
    Reached 10 (r₃.perform (.delete "ann" (idText "ann" 5 1))) ∧
      (r₃.perform (.delete "ann" (idText "ann" 5 1))).isConsistent = true := by
  intro r₁ r₂ r₃
  have h₁ : Reached 10 r₁ := .perform (.obtain "ann" 5) .empty trivial
  have h₂ : Reached 10 r₂ := .perform (.write 0 _) h₁ ⟨rfl, rfl⟩
  have h₃ : Reached 10 r₃ := .perform (.obtain "ann" 3) h₂ trivial
  have h : Reached 10 (r₃.perform (.delete "ann" (idText "ann" 5 1))) := by
    have hs : 0 < r₃.created.size ∧ (r₃.session 0).user = "ann" ∧
        (r₃.session 0).id = idText "ann" 5 1 := by
      simp [r₃, r₂, r₁, Registry.perform, Registry.obtain, Registry.openSession, Registry.update,
        Registry.session, Session.isLive, Session.begin, newId_eq, State.isTerminal,
        Registry.remove, unlink]
    have ha := h₃.sound.allowed_delete hs.1
    rw [hs.2.1, hs.2.2] at ha
    exact .perform _ h₃ ha
  exact ⟨h, (reached_lockstep h).2.2.2.2.1⟩

end ShopTraffic.Registry
