import ShopTraffic.Proofs.Registry.Lockstep

/-!
What the operations of the registry never undo: a session keeps its number, its id and its visitor,
and one that is no longer registered is never registered again. A look-up, a sweep and a deletion
change no visitor's place either.
-/

namespace ShopTraffic

/-- The session that was replaced because it had expired, if there was one. -/
def Origin.replaced : Origin → Option String
  | .afterExpiry session => some session
  | _ => none

namespace Registry

structure Grows (r r' : Registry) : Prop where
  size : r.created.size ≤ r'.created.size
  id : ∀ n < r.created.size, (r'.session n).id = (r.session n).id
  user : ∀ n < r.created.size, (r'.session n).user = (r.session n).user
  gone : ∀ n < r.created.size,
    r.sessions[(r.session n).id]? = none → r'.sessions[(r.session n).id]? = none

/-- No visitor has moved on. -/
def Rests (r r' : Registry) : Prop :=
  ∀ n < r.created.size, (r'.session n).state = (r.session n).state

variable {r r' r'' : Registry} {user : String} {now : Time}

lemma grows_refl (r : Registry) : r.Grows r :=
  ⟨Nat.le_refl _, fun _ _ => rfl, fun _ _ => rfl, fun _ _ h => h⟩

lemma Grows.trans (h : r.Grows r') (h' : r'.Grows r'') : r.Grows r'' where
  size := Nat.le_trans h.size h'.size
  id n hn := (h'.id n (Nat.lt_of_lt_of_le hn h.size)).trans (h.id n hn)
  user n hn := (h'.user n (Nat.lt_of_lt_of_le hn h.size)).trans (h.user n hn)
  gone n hn hs := by
    have := h'.gone n (Nat.lt_of_lt_of_le hn h.size)
    rw [h.id n hn] at this
    exact this (h.gone n hn hs)

lemma Grows.rests_trans (h : r.Grows r') (hr : r.Rests r') (hr' : r'.Rests r'') : r.Rests r'' :=
  fun n hn => (hr' n (Nat.lt_of_lt_of_le hn h.size)).trans (hr n hn)

/-! ### Writing, deleting, sweeping -/

lemma update_grows {n : Nat} {f : Session → Session} (hf : r.Allowed (.write n f)) :
    r.Grows (r.update n f) where
  size := by simp
  id m _ := session_update_of_kept Session.id hf.1 m
  user m _ := session_update_of_kept Session.user hf.2 m
  gone _ _ h := h

/-- A registry with the same sessions, of which fewer may be registered. -/
lemma grows_of_removed (hc : r'.created = r.created)
    (hs : ∀ id : String, r.sessions[id]? = none → r'.sessions[id]? = none) :
    r.Grows r' ∧ r.Rests r' := by
  have h : r'.session = r.session := funext fun n => by rw [session, session, hc]
  exact ⟨⟨Nat.le_of_eq (congrArg Array.size hc.symm), fun n _ => by rw [h], fun n _ => by rw [h],
    fun n _ => hs _⟩, fun n _ => by rw [h]⟩

@[simp] lemma unlink_created (r : Registry) (user session : String) :
    (r.unlink user session).created = r.created := by
  unfold unlink
  split <;> rfl

@[simp] lemma unlink_sessions (r : Registry) (user session : String) :
    (r.unlink user session).sessions = r.sessions := by
  unfold unlink
  split <;> rfl

lemma delete_sessions (r : Registry) (user session id : String) :
    (r.delete user session).1.sessions[id]? = if session = id then none else r.sessions[id]? := by
  simp [delete, Std.HashMap.getElem?_erase]

lemma delete_created (r : Registry) (user session : String) :
    (r.delete user session).1.created = r.created := by
  simp [delete]

lemma delete_grows (r : Registry) (user session : String) :
    r.Grows (r.delete user session).1 ∧ r.Rests (r.delete user session).1 := by
  refine grows_of_removed (r.delete_created user session) fun id h => ?_
  rw [delete_sessions, h, ite_self]

lemma remove_created (r : Registry) (session : String) :
    (r.remove session).created = r.created := by
  unfold remove
  split <;> simp

lemma remove_sessions (r : Registry) (session id : String) :
    (r.remove session).sessions[id]? = if session = id then none else r.sessions[id]? := by
  rcases h : r.sessions[session]? with _ | n
  · rw [remove_of_unknown h]
    split
    · next e => rw [← e, h]
    · rfl
  · simp [remove, h, Std.HashMap.getElem?_erase]

lemma foldl_remove_created (r : Registry) (ids : List String) :
    (ids.foldl remove r).created = r.created := by
  induction ids generalizing r with
  | nil => rfl
  | cons id ids ih => exact (ih (r.remove id)).trans (r.remove_created id)

lemma foldl_remove_sessions (r : Registry) (ids : List String) (id : String) :
    (ids.foldl remove r).sessions[id]? = if id ∈ ids then none else r.sessions[id]? := by
  induction ids generalizing r with
  | nil => simp
  | cons a ids ih =>
    rw [List.foldl_cons, ih, remove_sessions]
    by_cases hm : id ∈ ids
    · simp [hm]
    · by_cases ha : a = id
      · simp [hm, ha]
      · simp [hm, ha, Ne.symm ha]

/-- **A sweep removes the expired sessions** and no others. -/
lemma sweep_sessions (r : Registry) (now : Time) (id : String) :
    (r.sweep now).1.sessions[id]? = if id ∈ r.expired now then none else r.sessions[id]? :=
  r.foldl_remove_sessions _ id

lemma sweep_created (r : Registry) (now : Time) : (r.sweep now).1.created = r.created :=
  r.foldl_remove_created _

lemma sweep_grows (r : Registry) (now : Time) :
    r.Grows (r.sweep now).1 ∧ r.Rests (r.sweep now).1 := by
  refine grows_of_removed (r.sweep_created now) fun id h => ?_
  rw [sweep_sessions, h, ite_self]

lemma mem_expired {id : String} :
    id ∈ r.expired now ↔ ∃ n, r.sessions[id]? = some n ∧ (r.session n).isExpired now = true := by
  simp [expired, Std.HashMap.mem_toList_iff_getElem?_eq_some]

lemma expired_nodup (r : Registry) (now : Time) : (r.expired now).Nodup := by
  have h : (r.sessions.toList.map (·.1)).Nodup := by
    rw [List.Nodup, List.pairwise_map]
    exact r.sessions.distinct_keys_toList.imp fun h => by simpa using h
  exact h.sublist (List.filter_sublist.map _)

/-! ### Looking up -/

lemma openSession_sessions (r : Registry) (user : String) (now : Time) (id : String) :
    (r.openSession user now).1.sessions[id]? =
      if r.newId user now = id then some r.created.size else r.sessions[id]? := by
  simp [openSession, Std.HashMap.getElem?_insert]

lemma openSession_created_size (r : Registry) (user : String) (now : Time) :
    (r.openSession user now).1.created.size = r.created.size + 1 := by
  simp [openSession]

lemma Sound.openSession_grows (h : r.Sound) (user : String) (now : Time) :
    r.Grows (r.openSession user now).1 ∧ r.Rests (r.openSession user now).1 := by
  refine ⟨⟨?_, fun n hn => ?_, fun n hn => ?_, fun n hn hg => ?_⟩, fun n hn => ?_⟩
  · rw [openSession_created_size]
    omega
  · rw [session_openSession_old user now hn]
  · rw [session_openSession_old user now hn]
  · rw [openSession_sessions, if_neg (h.newId_ne user now hn), hg]
  · rw [session_openSession_old user now hn]

/-- What a look-up gives: the registered session of the visitor, who is inside. -/
structure Obtained (r : Registry) (user : String) (r' : Registry) (n : Nat) (o : Origin) :
    Prop where
  grows : r.Grows r'
  rests : r.Rests r'
  handle : n < r'.created.size
  registered : r'.sessions[(r'.session n).id]? = some n
  user : (r'.session n).user = user
  inside : (r'.session n).state ≠ .exit
  /-- A session is replaced for having expired only while its visitor is inside. -/
  replaced : ∀ id, o.replaced = some id → ∃ m < r.created.size, (r.session m).id = id ∧
    r.sessions[id]? = some m ∧ r'.sessions[id]? = none ∧ (r.session m).state ≠ .exit

/-- A live session is prolonged. -/
lemma obtain_of_live {id : String} {n : Nat} (hu : r.users[user]? = some id)
    (hn : r.sessions[id]? = some n) (hl : (r.session n).isLive now = true) :
    r.obtain user now = (r.update n (·.touch now r.ttl), n, .kept) := by
  simp [Registry.obtain, hu, hn, hl]

lemma Sound.obtain_live (h : r.Sound) {id : String} {n : Nat} (hn : r.sessions[id]? = some n)
    (hl : (r.session n).isLive now = true) :
    r.obtain (r.session n).user now = (r.update n (·.touch now r.ttl), n, .kept) :=
  obtain_of_live (h.linked hn) hn hl

/-- A new session is what was looked for, also when another has just been taken out for it. -/
lemma Sound.obtained_new {r₀ : Registry} (h : r₀.Sound) (hg : r.Grows r₀) (hr : r.Rests r₀)
    (user : String) (now : Time) {o : Origin}
    (ho : ∀ id, o.replaced = some id → ∃ m < r.created.size, (r.session m).id = id ∧
      r.sessions[id]? = some m ∧ r₀.sessions[id]? = none ∧ (r.session m).state ≠ .exit) :
    r.Obtained user (r₀.openSession user now).1 r₀.created.size o := by
  obtain ⟨hg', hr'⟩ := h.openSession_grows user now
  refine
    { grows := hg.trans hg'
      rests := hg.rests_trans hr hr'
      handle := by rw [openSession_created_size]; exact Nat.lt_succ_self _
      registered := ?_
      user := by rw [session_openSession_new]; rfl
      inside := by rw [session_openSession_new]; exact State.noConfusion
      replaced := fun id hid => ?_ }
  · rw [openSession_sessions, session_openSession_new]
    exact if_pos rfl
  · obtain ⟨m, hm, rfl, hs, hs₀, hx⟩ := ho id hid
    refine ⟨m, hm, rfl, hs, ?_, hx⟩
    have := hg'.gone m (Nat.lt_of_lt_of_le hm hg.size)
    rw [hg.id m hm] at this
    exact this hs₀

lemma Sound.obtained (h : r.Sound) (user : String) (now : Time) :
    r.Obtained user (r.obtain user now).1 (r.obtain user now).2.1 (r.obtain user now).2.2 := by
  rcases h.obtain_cases user now with
    ⟨id, n, hu, hn, hl, e⟩ | ⟨hu, e⟩ | ⟨id, n, hu, hn, hl, hs, e⟩ <;> rw [e]
  · obtain ⟨hlt, hid⟩ := h.named hn
    have hv : (r.session n).user = user := by
      obtain ⟨m, hm, hv⟩ := h.led hu
      rwa [Option.some.inj (hn.symm.trans hm)]
    have hx : (r.session n).state ≠ .exit := ((Session.isLive_iff _ now).mp hl).1
    have hf : r.Allowed (.write n (·.touch now r.ttl)) := r.allowed_touch n now r.ttl
    exact
      { grows := update_grows hf
        rests := fun m _ => session_update_of_kept Session.state rfl m
        handle := by simpa using hlt
        registered := by rw [session_update_self hlt]; simpa [Session.touch, hid] using hn
        user := by rw [session_update_self hlt]; exact hv
        inside := by rw [session_update_self hlt]; exact hx
        replaced := fun id h => by cases h }
  · exact h.obtained_new r.grows_refl (fun _ _ => rfl) user now fun id h => by cases h
  · obtain ⟨hlt, hid⟩ := h.named hn
    have hw : r.Grows (r.without id n) ∧ r.Rests (r.without id n) :=
      grows_of_removed rfl fun id' h' => by rw [sessions_without, h', ite_self]
    refine (h.without hn).obtained_new hw.1 hw.2 user now fun id' h' => ?_
    split at h'
    · cases h'
    · next hx =>
      obtain rfl : id = id' := Option.some.inj h'
      have hne : (r.session n).state ≠ .exit := fun e => hx (by simp [e, State.isTerminal])
      exact ⟨n, hlt, hid, hn, by rw [sessions_without, if_pos rfl], hne⟩

end Registry

end ShopTraffic
