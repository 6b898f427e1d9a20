import ShopTraffic.Proofs.Registry.Alike
import ShopTraffic.Proofs.Registry.Turnover

/-!
No session id is issued twice. An id joins the name of a visitor, a time and a number by
underscores, and names may hold underscores and digits, so that the text alone does not say where
the name ends. What is behind the last underscore is always the number, and no number comes twice:
sessions are counted, and those that have left the registry still count.

It takes no invariant of the visitors' table to say so. Any session may be deleted for anyone, and
handles may be used to write anything, even ids: the table of the sessions goes by the ids as they
were issued.
-/

namespace ShopTraffic.Registry

variable {r r' : Registry} {op : Op} {ops : List Op} {ids : List String} {id : String} {n : Nat}

/-! ### The ids that a run issues -/

/-- The id of the session that an operation opens, if it does. -/
def issue? (r : Registry) (op : Op) : Option String :=
  (r.perform op).created[r.created.size]?.map (·.id)

def issued (r : Registry) : List Op → List String
  | [] => []
  | op :: ops => (r.issue? op).toList ++ (r.perform op).issued ops

def KeepsId (r : Registry) : Op → Prop
  | .write n change => (change (r.session n)).id = (r.session n).id
  | _ => True

def KeepsIds (r : Registry) : List Op → Prop
  | [] => True
  | op :: ops => r.KeepsId op ∧ (r.perform op).KeepsIds ops

/-- A new session has been registered under an id, and no other one has. -/
structure Registers (r r' : Registry) (id : String) : Prop where
  size : r'.created.size = r.created.size + 1
  named : (r'.session r.created.size).id = id
  old : ∀ m < r.created.size, r'.session m = r.session m
  new : r'.sessions[id]? = some r.created.size
  others : ∀ {id' : String} {n : Nat}, id ≠ id' → r'.sessions[id']? = some n →
    r.sessions[id']? = some n

structure RegistersNone (r r' : Registry) : Prop where
  size : r'.created.size = r.created.size
  others : ∀ {id : String} {n : Nat}, r'.sessions[id]? = some n → r.sessions[id]? = some n

lemma RegistersNone.issue?_eq (h : r.RegistersNone (r.perform op)) : r.issue? op = none := by
  simp [issue?, ← h.size]

lemma Registers.issue?_eq (h : r.Registers (r.perform op) id) : r.issue? op = some id := by
  have hlt : r.created.size < (r.perform op).created.size := h.size ▸ Nat.lt_succ_self _
  have hid := h.named
  rw [session, Array.getElem?_eq_getElem hlt] at hid
  rw [issue?, Array.getElem?_eq_getElem hlt]
  exact congrArg some hid

/-- A session is opened, maybe after others have been taken out. -/
lemma registers_openSession {r₀ : Registry} (hc : r₀.created = r.created)
    (hs : ∀ {id : String} {n : Nat}, r₀.sessions[id]? = some n → r.sessions[id]? = some n)
    (user : String) (now : Time) :
    r.Registers (r₀.openSession user now).1 (r.newId user now) := by
  have hid : r₀.newId user now = r.newId user now := by rw [newId_eq, newId_eq, hc]
  refine
    { size := by rw [openSession_created_size, hc]
      named := ?_
      old := fun m hm => ?_
      new := by rw [openSession_sessions, if_pos hid, hc]
      others := fun hne hn => ?_ }
  · rw [← hc, session_openSession_new, ← hid]
    rfl
  · rw [session_openSession_old user now (hc ▸ hm), session_congr hc]
  · rw [openSession_sessions, if_neg (hid ▸ hne)] at hn
    exact hs hn

/-- Only look-ups register sessions, and one at most. -/
lemma perform_cases (r : Registry) (op : Op) :
    r.RegistersNone (r.perform op) ∨
    ∃ user now, op = .obtain user now ∧ r.Registers (r.perform op) (r.newId user now) := by
  cases op with
  | obtain user now =>
    rw [perform]
    rcases r.lookUp_cases user now with ⟨n, -, e⟩ | ⟨-, e⟩ | ⟨id, n, -, -, e⟩ <;> rw [e]
    · exact .inl ⟨r.update_size n _, fun hn => hn⟩
    · exact .inr ⟨user, now, rfl, registers_openSession rfl (fun hn => hn) user now⟩
    · refine .inr ⟨user, now, rfl, ?_⟩
      refine registers_openSession (r.remove_created id) (fun hn => ?_) user now
      rw [remove_sessions] at hn
      exact (Option.ite_none_left_eq_some.mp hn).2
  | sweep now =>
    refine .inl ⟨congrArg Array.size (r.sweep_created now), fun hn => ?_⟩
    rw [perform, sweep_sessions] at hn
    exact (Option.ite_none_left_eq_some.mp hn).2
  | delete user session =>
    refine .inl ⟨congrArg Array.size (r.delete_created user session), fun hn => ?_⟩
    rw [perform, delete_sessions] at hn
    exact (Option.ite_none_left_eq_some.mp hn).2
  | write n f => exact .inl ⟨r.update_size n f, fun hn => hn⟩

/-! ### No id twice -/

/-- These are the ids of all sessions so far, in the order of their creation. -/
structure Issued (r : Registry) (ids : List String) : Prop where
  length : ids.length = r.created.size
  text : ∀ {n : Nat} {id : String}, ids[n]? = some id → ∃ user now, id = idText user now (n + 1)
  registered : ∀ {id : String} {n : Nat}, r.sessions[id]? = some n → ids[n]? = some id

lemma issued_empty (ttl : Time) : Issued { ttl } [] := ⟨rfl, by simp, by simp⟩

/-- An id is at one place only. -/
lemma Issued.place_eq (h : r.Issued ids) {m : Nat} (hm : ids[m]? = some id)
    (hn : ids[n]? = some id) : m = n := by
  obtain ⟨user, now, hid⟩ := h.text hm
  obtain ⟨user', now', hid'⟩ := h.text hn
  exact Nat.succ.inj (idText_inj (hid.symm.trans hid'))

lemma Issued.nodup (h : r.Issued ids) : ids.Nodup := by
  refine List.nodup_iff_getElem?_ne_getElem?.mpr fun m n hmn hn e => ?_
  rw [List.getElem?_eq_getElem hn] at e
  exact absurd (h.place_eq e (List.getElem?_eq_getElem hn)) hmn.ne

/-- A new id has not been issued before. -/
lemma Issued.newId_notMem (h : r.Issued ids) (user : String) (now : Time) :
    r.newId user now ∉ ids := by
  intro hmem
  obtain ⟨n, hn⟩ := List.mem_iff_getElem?.mp hmem
  obtain ⟨user', now', hid⟩ := h.text hn
  have hlt : n < ids.length := (List.getElem?_eq_some_iff.mp hn).1
  have hnumber : r.created.size + 1 = n + 1 := idText_inj ((newId_eq r user now).symm.trans hid)
  rw [h.length] at hlt
  omega

lemma Issued.mem (h : r.Issued ids) (hn : r.sessions[id]? = some n) : id ∈ ids :=
  List.mem_of_getElem? (h.registered hn)

/-- The last of the ids is the new one, and the others are where they were. -/
lemma getElem?_concat_eq_some {α : Type} {as : List α} {a b : α} :
    (as ++ [a])[n]? = some b ↔ as[n]? = some b ∨ n = as.length ∧ a = b := by
  rcases Nat.lt_trichotomy n as.length with hlt | rfl | hgt
  · simp [List.getElem?_append_left hlt, hlt.ne]
  · simp
  · simp [List.getElem?_append_right hgt.le, hgt.le, hgt.ne', Nat.sub_ne_zero_of_lt hgt]

lemma Issued.perform (h : r.Issued ids) (op : Op) :
    (r.perform op).Issued (ids ++ (r.issue? op).toList) := by
  rcases r.perform_cases op with hnone | ⟨user, now, -, hnew⟩
  · rw [hnone.issue?_eq, Option.toList_none, List.append_nil]
    exact ⟨h.length.trans hnone.size.symm, h.text, fun hn => h.registered (hnone.others hn)⟩
  · rw [hnew.issue?_eq, Option.toList_some]
    refine
      { length := by rw [List.length_append, h.length, hnew.size, List.length_singleton]
        text := fun hn => ?_
        registered := fun {id n} hn => ?_ }
    · rcases getElem?_concat_eq_some.mp hn with hold | ⟨rfl, rfl⟩
      · exact h.text hold
      · exact ⟨user, now, by rw [newId_eq, h.length]⟩
    · rw [getElem?_concat_eq_some, h.length]
      by_cases hid : r.newId user now = id
      · subst hid
        exact .inr ⟨(Option.some.inj (hnew.new.symm.trans hn)).symm, rfl⟩
      · exact .inl (h.registered (hnew.others hid hn))

lemma Issued.run (h : r.Issued ids) (ops : List Op) :
    (r.run ops).Issued (ids ++ r.issued ops) := by
  induction ops generalizing r ids with
  | nil => simpa [issued] using h
  | cons op ops ih => simpa [issued, List.append_assoc] using ih (h.perform op)

/-! ### The ids that sessions have -/

/-- Sessions have the ids that were issued for them. -/
def Named (r : Registry) (ids : List String) : Prop :=
  ∀ (n : Nat) (id : String), ids[n]? = some id → (r.session n).id = id

lemma perform_id (hk : r.KeepsId op) (hn : n < r.created.size) :
    ((r.perform op).session n).id = (r.session n).id := by
  cases op with
  | obtain user now =>
    rw [perform]
    rcases r.lookUp_cases user now with ⟨m, -, e⟩ | ⟨-, e⟩ | ⟨id, m, -, -, e⟩ <;> rw [e]
    · exact session_update_of_kept Session.id rfl n
    · rw [session_openSession_old user now hn]
    · have hc := r.remove_created id
      rw [session_openSession_old user now (hc ▸ hn), session_congr hc]
  | sweep now => rw [perform, session_congr (r.sweep_created now)]
  | delete user session => rw [perform, session_congr (r.delete_created user session)]
  | write m change => exact session_update_of_kept Session.id hk n

lemma Named.perform (hnamed : r.Named ids) (h : r.Issued ids) (hk : r.KeepsId op) :
    (r.perform op).Named (ids ++ (r.issue? op).toList) := by
  have hold : ∀ n id, ids[n]? = some id → ((r.perform op).session n).id = id := fun n id hn => by
    have hlt := (List.getElem?_eq_some_iff.mp hn).1
    rw [perform_id hk (h.length ▸ hlt), hnamed n id hn]
  rcases r.perform_cases op with hnone | ⟨user, now, -, hnew⟩
  · rw [hnone.issue?_eq, Option.toList_none, List.append_nil]
    exact hold
  · intro n id hn
    rw [hnew.issue?_eq, Option.toList_some] at hn
    rcases getElem?_concat_eq_some.mp hn with hm | ⟨rfl, rfl⟩
    · exact hold n id hm
    · rw [h.length, hnew.named]

/-- As long as no id is written, sessions keep the ids that were issued for them. -/
lemma Named.run (hnamed : r.Named ids) (h : r.Issued ids) (hk : r.KeepsIds ops) :
    (r.run ops).Named (ids ++ r.issued ops) := by
  induction ops generalizing r ids with
  | nil => simpa [issued] using hnamed
  | cons op ops ih =>
    simpa [issued, List.append_assoc] using ih (hnamed.perform h hk.1) (h.perform op) hk.2

/-- **No session id is issued twice.** Whatever visitors are called, whatever the times are, and
whatever is deleted, swept or written: the ids that a run issues are all different, one for each
session that is ever created, and a registered session is registered under the id that was issued
for it. So an id that is issued next is new, nothing is registered under it, and the new session is
what it leads to from then on. However much later an id is used, it leads to the session that it was
issued for, if it leads to any, and deleting it takes out no other. As long as no id is written
through a handle, these are the ids of the sessions, so that no two sessions have one id. -/
theorem issued_once (ttl : Time) (ops : List Op) :
    let ids := issued { ttl } ops
    let r := run { ttl } ops
    ids.Nodup ∧ ids.length = r.created.size ∧
    (∀ (id : String) (n : Nat), r.sessions[id]? = some n → ids[n]? = some id) ∧
    (∀ op id, r.issue? op = some id →
      id ∉ ids ∧ r.sessions[id]? = none ∧ r.Registers (r.perform op) id) ∧
    (∀ (later : List Op) (n : Nat) (id : String), ids[n]? = some id →
      let r' := r.run later
      (∀ m, r'.sessions[id]? = some m → m = n) ∧
        ∀ (user other : String) (m : Nat), r'.sessions[other]? = some m → m ≠ n →
          (r'.delete user id).1.sessions[other]? = some m) ∧
    (KeepsIds { ttl } ops →
      (∀ n < r.created.size, ids[n]? = some (r.session n).id) ∧
        ∀ m < r.created.size, ∀ n < r.created.size,
          (r.session m).id = (r.session n).id → m = n) := by
  intro ids r
  have h : r.Issued ids := (issued_empty ttl).run ops
  refine ⟨h.nodup, h.length, fun id n => h.registered, fun op id hid => ?_, fun later n id hn => ?_,
    fun hk => ?_⟩
  · rcases r.perform_cases op with hnone | ⟨user, now, -, hnew⟩
    · cases hnone.issue?_eq.symm.trans hid
    · obtain rfl := Option.some.inj (hnew.issue?_eq.symm.trans hid)
      have hfresh := h.newId_notMem user now
      exact ⟨hfresh, Option.eq_none_iff_forall_ne_some.mpr fun n hn => hfresh (h.mem hn), hnew⟩
  · intro r'
    have h' : r'.Issued (ids ++ r.issued later) := h.run later
    have hplace : (ids ++ r.issued later)[n]? = some id := by
      rwa [List.getElem?_append_left (List.getElem?_eq_some_iff.mp hn).1]
    have honly : ∀ m, r'.sessions[id]? = some m → m = n := fun m hm =>
      h'.place_eq (h'.registered hm) hplace
    refine ⟨honly, fun user other m hm hne => ?_⟩
    rw [delete_sessions, if_neg, hm]
    rintro rfl
    exact hne (honly m hm)
  · have hnamed : r.Named ids := Named.run (fun _ _ => by simp) (issued_empty ttl) hk
    have hplaces : ∀ n < r.created.size, ids[n]? = some (r.session n).id := fun n hn => by
      have hlt : n < ids.length := h.length ▸ hn
      rw [List.getElem?_eq_getElem hlt, hnamed n _ (List.getElem?_eq_getElem hlt)]
    exact ⟨hplaces, fun m hm n hn e => h.place_eq (hplaces m hm) (e ▸ hplaces n hn)⟩

/-- Ann comes, leaves and comes again, all at one time before the epoch, and someone who is called
as Ann's id goes on comes then as well. -/
theorem issued_once_ann :
    let ops : List Op := [.obtain "ann" (-5), .write 0 fun s => { s with state := .exit },
      .obtain "ann" (-5), .obtain "ann_-5_1" (-5)]
    let r := run { ttl := 10 } ops
    r.created.size = 3 ∧ (issued { ttl := 10 } ops).Nodup ∧
      ∀ m < 3, ∀ n < 3, (r.session m).id = (r.session n).id → m = n := by
  intro ops r
  obtain ⟨hnodup, -, -, -, -, hids⟩ := issued_once 10 ops
  have hsize : r.created.size = 3 := by
    simp [r, ops, perform, obtain, openSession, update, session, Session.isLive, Session.begin,
      State.isTerminal, remove, unlink, newId_eq]
  have hk : KeepsIds { ttl := 10 } ops := ⟨trivial, rfl, trivial, trivial, trivial⟩
  obtain ⟨-, hapart⟩ := hids hk
  exact ⟨hsize, hnodup, hsize ▸ hapart⟩

end ShopTraffic.Registry
