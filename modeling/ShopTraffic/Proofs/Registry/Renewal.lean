import ShopTraffic.Proofs.Behaviour.Moves
import ShopTraffic.Proofs.Registry.Alike
import ShopTraffic.Proofs.Registry.Deletion

/-!
What look-ups do to times. A look-up sets the time of the last event and the time of the expiry
together, whether it creates the session or prolongs it: the expiry is a time to live after the last
event. A sum that leaves 64 bits stops at the end of them, so only what happens at the end of time
has no time after it.

Any deletions may have gone before. Sweeps and deletions touch no times; what is written through a
handle may, and has to keep them together.
-/

namespace ShopTraffic

/-! ### Times -/

lemma later_toInt {span : Time} (h : 0 ≤ span.toInt) (t : Time) :
    (later t span).toInt = min Int64.maxValue.toInt (t.toInt + span.toInt) := by
  have hmin : Int64.minValue.toInt ≤ t.toInt + span.toInt := by
    have := t.minValue_le_toInt
    omega
  rcases lt_or_ge Int64.maxValue.toInt (t.toInt + span.toInt) with hlt | hle
  · rw [later, Int64.ofIntClamp, dif_pos hmin, dif_neg hlt.not_ge, min_eq_left hlt.le]
  · rw [later, Int64.toInt_ofIntClamp hmin hle, min_eq_right hle]

/-- Any time but the last has times after it. -/
lemma lt_later {t span : Time} (hspan : 0 < span) (ht : t < Int64.maxValue) : t < later t span := by
  rw [Int64.lt_iff_toInt_lt] at hspan ht ⊢
  rw [later_toInt hspan.le]
  exact lt_min ht (Int.lt_add_of_pos_right _ hspan)

/-- The session expires a time to live after its last event. -/
def Session.Slides (s : Session) (ttl : Time) : Prop := s.expiry = later s.lastEvent ttl

namespace Registry

variable {r r' r₀ : Registry} {user : String} {now ttl : Time} {n : Nat}

/-! ### Looking up -/

/-- A look-up gives a registered session of the visitor, who is inside; it has just been created or
prolonged, and all others are as they were. -/
structure Renewed (r : Registry) (user : String) (now : Time) (r' : Registry) (n : Nat) :
    Prop where
  ttl : r'.ttl = r.ttl
  handle : n < r'.created.size
  registered : r'.sessions[(r'.session n).id]? = some n
  user : (r'.session n).user = user
  inside : (r'.session n).state.isTerminal = false
  lastEvent : (r'.session n).lastEvent = now
  expiry : (r'.session n).expiry = later now r.ttl
  others : ∀ m < r'.created.size, m ≠ n → m < r.created.size ∧ r'.session m = r.session m

lemma renewed_new (hc : r₀.created = r.created) (ht : r₀.ttl = r.ttl) (user : String) (now : Time) :
    r.Renewed user now (r₀.openSession user now).1 r.created.size := by
  have hnew : (r₀.openSession user now).1.session r.created.size =
      Session.begin (r₀.newId user now) user now r.ttl := by
    rw [← hc, ← ht]
    exact session_openSession_new user now
  refine
    { ttl := ht
      handle := by rw [openSession_created_size, hc]; exact Nat.lt_succ_self _
      registered := ?_
      user := by rw [hnew]; rfl
      inside := by rw [hnew]; rfl
      lastEvent := by rw [hnew]; rfl
      expiry := by rw [hnew]; rfl
      others := fun m hm hne => ?_ }
  · rw [hnew, openSession_sessions, hc]
    exact if_pos rfl
  · rw [openSession_created_size, hc] at hm
    have hlt : m < r₀.created.size := by rw [hc]; omega
    exact ⟨hc ▸ hlt, by rw [session_openSession_old user now hlt, session_congr hc]⟩

lemma Traced.renewed (h : r.Traced) (user : String) (now : Time) :
    r.Renewed user now (r.obtain user now).1 (r.obtain user now).2.1 := by
  rcases h.obtain_cases user now with ⟨id, n, hn, hs, hl, e⟩ | ⟨-, e⟩ | ⟨id, n, -, -, -, e⟩ <;>
    rw [e]
  · obtain ⟨hlt, hid⟩ := h.named hn
    have hself : (r.update n (·.touch now r.ttl)).session n = (r.session n).touch now r.ttl :=
      session_update_self hlt _
    refine
      { ttl := rfl
        handle := by rw [update_size]; exact hlt
        registered := by rw [hself, update_sessions]; exact hid ▸ hn
        user := by rw [hself]; exact hs
        inside := ?_
        lastEvent := by rw [hself]; rfl
        expiry := by rw [hself]; rfl
        others := fun m hm hne => ⟨by simpa using hm, session_update_ne (Ne.symm hne) _⟩ }
    rw [hself]
    rw [Session.isLive, Bool.and_eq_true, Bool.not_eq_true'] at hl
    exact hl.1
  · exact renewed_new rfl rfl user now
  · exact renewed_new (created_without r id n) rfl user now

/-! ### Sliding sessions -/

/-- Every session that was ever created expires a time to live after its last event. -/
structure Sliding (r : Registry) (ttl : Time) : Prop where
  traced : r.Traced
  ttl_eq : r.ttl = ttl
  slides : ∀ n < r.created.size, (r.session n).Slides ttl

lemma sliding_empty (ttl : Time) : Sliding { ttl } ttl where
  traced := (sound_empty ttl).traced
  ttl_eq := rfl
  slides := nofun

lemma Sliding.obtain (h : r.Sliding ttl) (user : String) (now : Time) :
    (r.obtain user now).1.Sliding ttl := by
  have ho := h.traced.renewed user now
  refine ⟨h.traced.obtain user now, ho.ttl.trans h.ttl_eq, fun m hm => ?_⟩
  by_cases hne : m = (r.obtain user now).2.1
  · rw [hne, Session.Slides, ho.expiry, ho.lastEvent, h.ttl_eq]
  · obtain ⟨hlt, hold⟩ := ho.others m hm hne
    rw [hold]
    exact h.slides m hlt

/-- Sessions may be taken out. -/
lemma Sliding.lose (h : r.Sliding ttl) (ht : r'.Traced) (httl : r'.ttl = r.ttl)
    (hc : r'.created = r.created) : r'.Sliding ttl := by
  refine ⟨ht, httl.trans h.ttl_eq, ?_⟩
  rw [hc, session_congr hc]
  exact h.slides

lemma Sliding.sweep (h : r.Sliding ttl) (now : Time) : (r.sweep now).1.Sliding ttl :=
  h.lose (h.traced.sweep now) (r.sweep_ttl now) (r.sweep_created now)

lemma Sliding.delete (h : r.Sliding ttl) (user session : String) :
    (r.delete user session).1.Sliding ttl :=
  h.lose (h.traced.delete user session) (r.delete_ttl user session) (r.delete_created user session)

lemma Sliding.write (h : r.Sliding ttl) {f : Session → Session} (hf : r.Allowed (.write n f))
    (hs : n < r.created.size → (f (r.session n)).Slides ttl) : (r.update n f).Sliding ttl := by
  refine ⟨h.traced.update hf, h.ttl_eq, fun m hm => ?_⟩
  rw [update_size] at hm
  by_cases hne : n = m
  · subst hne
    rw [session_update_self hm]
    exact hs hm
  · rw [session_update_ne hne]
    exact h.slides m hm

/-- A visitor may enter. -/
lemma Sliding.enter (h : r.Sliding ttl) (n : Nat) :
    (r.update n fun _ => (r.session n).enter).Sliding ttl :=
  h.write ⟨rfl, rfl⟩ fun hn => h.slides n hn

/-- A visitor may move at the time that is the last anyway. -/
lemma Sliding.move (h : r.Sliding ttl) {table : Table} {s' : Session} {e : Event}
    (hm : (r.session n).Moved table now s' e) (hl : (r.session n).lastEvent = now) :
    (r.update n fun _ => s').Sliding ttl := by
  refine h.write ⟨hm.id, hm.user⟩ fun hn => ?_
  rw [Session.Slides, hm.expiry, hm.lastEvent, ← hl]
  exact h.slides n hn

end Registry

end ShopTraffic
