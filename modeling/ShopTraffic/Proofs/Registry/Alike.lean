import ShopTraffic.Proofs.Registry.Deletion

/-!
Registries that may differ in which of the sessions are registered whose visitors have left, and in
nothing else. Nobody can tell them apart: a look-up finds the same session in both, and look-ups,
sweeps and writes leave them alike. A session that is over can be taken out of one of them at any
time.
-/

namespace ShopTraffic.Registry

def Holds (r : Registry) (n : Nat) : Prop := r.sessions[(r.session n).id]? = some n

/-- The same sessions were created in both, and those that are not at the exit are registered in
both or in neither. -/
structure Alike (r r' : Registry) : Prop where
  sound : r.Sound
  sound' : r'.Sound
  ttl : r'.ttl = r.ttl
  created : r'.created = r.created
  holds : ∀ n < r.created.size, (r.session n).state ≠ .exit → (r.Holds n ↔ r'.Holds n)

variable {r r' : Registry} {user : String} {now : Time} {n : Nat}

lemma session_congr (h : r'.created = r.created) : r'.session = r.session := by
  funext n
  rw [session, session, h]

lemma Sound.alike (h : r.Sound) : r.Alike r := ⟨h, h, rfl, rfl, fun _ _ _ => Iff.rfl⟩

lemma Alike.session (h : r.Alike r') : r'.session = r.session := session_congr h.created

lemma Alike.symm (h : r.Alike r') : r'.Alike r where
  sound := h.sound'
  sound' := h.sound
  ttl := h.ttl.symm
  created := h.created.symm
  holds n hn hx := by
    rw [h.created] at hn
    rw [h.session] at hx
    exact (h.holds n hn hx).symm

/-! ### Writing through a handle -/

lemma holds_update {f : Session → Session} (hf : r.Allowed (.write n f)) (m : Nat) :
    (r.update n f).Holds m ↔ r.Holds m := by
  rw [Holds, Holds, session_update_of_kept Session.id hf.1, update_sessions]

/-- A write that brings nobody back from the exit leaves registries alike. -/
lemma Alike.update (h : r.Alike r') {f : Session → Session} (hf : r.Allowed (.write n f))
    (hx : (r.session n).state = .exit → (f (r.session n)).state = .exit) :
    (r.update n f).Alike (r'.update n f) where
  sound := h.sound.update hf
  sound' := h.sound'.update (by rwa [Allowed, h.session])
  ttl := h.ttl
  created := by rw [Registry.update, h.created]; rfl
  holds m hm hstate := by
    rw [update_size] at hm
    have hf' : r'.Allowed (.write n f) := by rwa [Allowed, h.session]
    rw [holds_update hf, holds_update hf']
    refine h.holds m hm fun hexit => hstate ?_
    by_cases hnm : n = m
    · subst hnm
      rw [session_update_self hm]
      exact hx hexit
    · rw [session_update_ne hnm, hexit]

/-! ### Taking sessions out -/

@[simp] lemma unlink_ttl (r : Registry) (user session : String) :
    (r.unlink user session).ttl = r.ttl := by
  unfold unlink
  split <;> rfl

lemma delete_ttl (r : Registry) (user session : String) : (r.delete user session).1.ttl = r.ttl :=
  unlink_ttl ..

/-- A session at the exit can be taken out of one of the registries. -/
lemma Alike.delete (h : r.Alike r') (hn : n < r.created.size) (hx : (r.session n).state = .exit) :
    (r.delete (r.session n).user (r.session n).id).1.Alike r' where
  sound := h.sound.delete (h.sound.allowed_delete hn)
  sound' := h.sound'
  ttl := h.ttl.trans (r.delete_ttl _ _).symm
  created := h.created.trans (r.delete_created _ _).symm
  holds m hm hstate := by
    rw [delete_created] at hm
    rw [session_congr (r.delete_created _ _)] at hstate
    have hne : (r.session n).id ≠ (r.session m).id := by
      intro e
      obtain rfl := h.sound.number_eq hn hm e
      exact hstate hx
    rw [← h.holds m hm hstate, Holds, Holds, session_congr (r.delete_created _ _), delete_sessions,
      if_neg hne]

/-- It can be taken out of both. -/
lemma Alike.delete_both (h : r.Alike r') (hn : n < r.created.size)
    (hx : (r.session n).state = .exit) :
    (r.delete (r.session n).user (r.session n).id).1.Alike
      (r'.delete (r.session n).user (r.session n).id).1 := by
  have hleft := (h.delete hn hx).symm
  have hboth := hleft.delete (n := n) (by rwa [h.created]) (by rwa [h.session])
  rw [h.session] at hboth
  exact hboth.symm

/-! ### Sweeping -/

lemma remove_ttl (r : Registry) (session : String) : (r.remove session).ttl = r.ttl := by
  unfold remove
  split <;> simp

lemma foldl_remove_ttl (r : Registry) (ids : List String) : (ids.foldl remove r).ttl = r.ttl := by
  induction ids generalizing r with
  | nil => rfl
  | cons id ids ih => exact (ih (r.remove id)).trans (r.remove_ttl id)

lemma sweep_ttl (r : Registry) (now : Time) : (r.sweep now).1.ttl = r.ttl :=
  r.foldl_remove_ttl _

/-- A registered session stays registered unless it has expired. -/
lemma holds_sweep (r : Registry) (now : Time) (n : Nat) :
    (r.sweep now).1.Holds n ↔ r.Holds n ∧ (r.session n).isExpired now = false := by
  rw [Holds, Holds, session_congr (r.sweep_created now), sweep_sessions]
  constructor
  · intro h
    split at h
    · cases h
    · next hx => exact ⟨h, by simpa [mem_expired, h] using hx⟩
  · rintro ⟨h, hlive⟩
    rw [if_neg, h]
    simpa [mem_expired, h] using hlive

lemma Alike.sweep (h : r.Alike r') (now : Time) : (r.sweep now).1.Alike (r'.sweep now).1 where
  sound := h.sound.sweep now
  sound' := h.sound'.sweep now
  ttl := by rw [sweep_ttl, sweep_ttl, h.ttl]
  created := by rw [sweep_created, sweep_created, h.created]
  holds m hm hstate := by
    rw [sweep_created] at hm
    rw [session_congr (r.sweep_created now)] at hstate
    rw [holds_sweep, holds_sweep, h.holds m hm hstate, h.session]

/-! ### Looking up -/

/-- A look-up that finds no live session opens one, and the visitor keeps no other. -/
structure Opened (r : Registry) (user : String) (now : Time) : Prop where
  handle : (r.obtain user now).2.1 = r.created.size
  ttl : (r.obtain user now).1.ttl = r.ttl
  created : (r.obtain user now).1.created =
    r.created.push (Session.begin (r.newId user now) user now r.ttl)
  old : ∀ m < r.created.size,
    ((r.obtain user now).1.Holds m ↔ r.Holds m ∧ (r.session m).user ≠ user)
  new : (r.obtain user now).1.Holds r.created.size

lemma opened_of {r₀ : Registry} {o : Origin} (hc : r₀.created = r.created) (ht : r₀.ttl = r.ttl)
    (hnew : ∀ m < r.created.size, r.newId user now ≠ (r.session m).id)
    (hs : ∀ m < r.created.size, r₀.Holds m ↔ r.Holds m ∧ (r.session m).user ≠ user)
    (ho : r.obtain user now = ((r₀.openSession user now).1, r.created.size, o)) :
    r.Opened user now := by
  have hid : r₀.newId user now = r.newId user now := by rw [newId_eq, newId_eq, hc]
  have hsize : r₀.created.size = r.created.size := by rw [hc]
  refine
    { handle := by rw [ho]
      ttl := by rw [ho]; exact ht
      created := by rw [ho, ← hid, ← ht, ← hc]; rfl
      old := fun m hm => ?_
      new := ?_ }
  · rw [← hs m hm, ho]
    unfold Holds
    rw [session_openSession_old user now (hsize ▸ hm), openSession_sessions, if_neg]
    rw [hid, session_congr hc]
    exact hnew m hm
  · rw [ho]
    unfold Holds
    rw [← hsize, session_openSession_new, openSession_sessions]
    exact if_pos rfl

lemma Opened.session_old (h : r.Opened user now) {m : Nat} (hm : m < r.created.size) :
    (r.obtain user now).1.session m = r.session m := by
  simp [Registry.session, h.created, Array.getElem?_push, Nat.ne_of_lt hm]

lemma Opened.session_new (h : r.Opened user now) :
    (r.obtain user now).1.session r.created.size =
      Session.begin (r.newId user now) user now r.ttl := by
  simp [Registry.session, h.created]

/-- A visitor has a live session, or is given a new one. -/
lemma Traced.obtain_live_or_opened (h : r.Traced) (user : String) (now : Time) :
    (∃ n < r.created.size, r.Holds n ∧ (r.session n).user = user ∧
      (r.session n).isLive now = true) ∨ r.Opened user now := by
  have hnew : ∀ m < r.created.size, r.newId user now ≠ (r.session m).id := fun m hm =>
    newId_ne_of_numbered h.numbered user now hm
  rcases h.obtain_cases user now with ⟨id, n, hn, hs, hl, -⟩ | ⟨hnone, e⟩ | ⟨id, n, hn, rfl, -, e⟩
  · obtain ⟨hlt, rfl⟩ := h.named hn
    exact .inl ⟨n, hlt, hn, hs, hl⟩
  · exact .inr (opened_of rfl rfl hnew (fun m _ => ⟨fun hh => ⟨hh, hnone hh⟩, And.left⟩) e)
  · refine .inr (opened_of (created_without r id n) rfl hnew (fun m hm => ?_) e)
    refine ⟨fun hh => h.user_ne_of_without hn hh, fun ⟨hh, hv⟩ => ?_⟩
    rw [Holds, session_without, sessions_without, if_neg, hh]
    rintro rfl
    obtain rfl := Option.some.inj (hn.symm.trans hh)
    exact hv rfl

/-- What look-ups of a visitor in two registries have in common. -/
def SameFound (r r' : Registry) (user : String) (now : Time) : Prop :=
  (r'.obtain user now).2.1 = (r.obtain user now).2.1 ∧
    (r.obtain user now).1.Alike (r'.obtain user now).1

lemma SameFound.symm (h : r.SameFound r' user now) : r'.SameFound r user now :=
  ⟨h.1.symm, h.2.symm⟩

/-- A live session is registered in both. -/
lemma Alike.found_live (h : r.Alike r') (hn : n < r.created.size) (hh : r.Holds n)
    (hl : (r.session n).isLive now = true) : r.SameFound r' (r.session n).user now := by
  have hx : (r.session n).state ≠ .exit := ((Session.isLive_iff _ now).mp hl).1
  have hh' : r'.sessions[(r.session n).id]? = some n := by
    have := (h.holds n hn hx).mp hh
    rwa [Holds, h.session] at this
  have hl' : (r'.session n).isLive now = true := by rwa [h.session]
  have hkept' := h.sound'.obtain_live hh' hl'
  rw [h.session, h.ttl] at hkept'
  rw [SameFound, h.sound.obtain_live hh hl, hkept']
  exact ⟨rfl, h.update (r.allowed_touch n now r.ttl) id⟩

/-- **A look-up finds the same session in registries that are alike**, and leaves them alike. -/
lemma Alike.obtain (h : r.Alike r') (user : String) (now : Time) : r.SameFound r' user now := by
  rcases h.sound.traced.obtain_live_or_opened user now with ⟨n, hn, hh, rfl, hl⟩ | ho
  · exact h.found_live hn hh hl
  rcases h.sound'.traced.obtain_live_or_opened user now with ⟨n, hn, hh, rfl, hl⟩ | ho'
  · exact (h.symm.found_live hn hh hl).symm
  -- a session is opened in both, in place of one that is over or of none
  refine ⟨by rw [ho.handle, ho'.handle, h.created],
    { sound := h.sound.obtain user now
      sound' := h.sound'.obtain user now
      ttl := by rw [ho.ttl, ho'.ttl, h.ttl]
      created := by rw [ho.created, ho'.created, newId_eq, newId_eq, h.created, h.ttl]
      holds := fun m hm hstate => ?_ }⟩
  rw [ho.created, Array.size_push] at hm
  rcases Nat.lt_succ_iff_lt_or_eq.mp hm with hm | rfl
  · rw [ho.session_old hm] at hstate
    rw [ho.old m hm, ho'.old m (by rwa [h.created]), h.holds m hm hstate, h.session]
  · have hnew := ho'.new
    rw [h.created] at hnew
    exact ⟨fun _ => hnew, fun _ => ho.new⟩

end ShopTraffic.Registry
