import Mathlib.Data.List.Nodup
import Mathlib.Data.List.Perm.Subperm
import ShopTraffic.Proofs.Simulation.Crowd

/-!
How often a session is counted as completed, when steps overlap with sweeps. A ledger holds an entry
for each time that the counter goes up: which session it was for, and why.

No session is replaced and swept, and none is swept twice or left twice. But a session that has left
and whose step is still under way may be swept, and then it is counted by the sweep and again when
the step ends. That is the only way to be counted twice.
-/

namespace ShopTraffic

namespace Crowd

open ShopTraffic.Random

inductive Cause
  /-- It was found to have expired when its visitor was looked up. -/
  | replaced
  /-- It had expired at a sweep, with its visitor in this place. -/
  | swept (place : State)
  /-- The step that made its visitor leave has ended. -/
  | left
  deriving DecidableEq

structure Entry where
  session : String
  cause : Cause
  deriving DecidableEq

/-- The place of the visitor of a registered session. -/
def placeOf (r : Registry) (session : String) : State :=
  (r.sessions[session]?.map fun n => (r.session n).state).getD .outside

def replacement (r : Registry) (user : String) (now : Time) : List Entry :=
  (r.obtain user now).2.2.replaced.toList.map (⟨·, .replaced⟩)

lemma length_replacement (r : Registry) (user : String) (now : Time) :
    (replacement r user now).length = (r.obtain user now).2.2.replaced.toList.length :=
  List.length_map ..

def entries (c : Crowd) : Move → List Entry
  | .begin now =>
    match c.sim.drawVisitor.2 with
    | none => []
    | some user => replacement c.sim.registry user now
  | .lookUp user now => replacement c.sim.registry user now
  | .sweep now =>
    (c.sim.registry.expired now).map fun id => ⟨id, .swept (placeOf c.sim.registry id)⟩
  | .send place =>
    match c.underway[place]? with
    | none => []
    | some u =>
      if (attempt c.sim u).2 && u.step.event.action.endsSession then
        [⟨u.step.event.session, .left⟩]
      else []
  | .receive | .close | .grow _ => []

def ledger (c : Crowd) : List Move → List Entry
  | [] => []
  | m :: moves => c.entries m ++ (c.perform m).ledger moves

/-- The sessions that have left, whether that has been counted or not. -/
def leavers (steps : List Pending) (entries : List Entry) : List String :=
  (entries.filter (·.cause = .left)).map (·.session) ++
    (steps.filter (·.event.action.endsSession)).map (·.event.session)

/-- The sessions that were counted for another cause than leaving. -/
def removed (entries : List Entry) : List String :=
  (entries.filter (·.cause ≠ .left)).map (·.session)

/-- The place of the visitor agrees with the cause. -/
def Cause.Fits : Cause → State → Prop
  | .replaced, s => s ≠ .exit
  | .swept place, s => s = place
  | .left, s => s = .exit

/-- The ledger agrees with the registry and with the steps under way. -/
structure Books (r : Registry) (steps : List Pending) (entries : List Entry) : Prop where
  sound : r.Sound
  left : ∀ id ∈ leavers steps entries,
    ∃ n < r.created.size, (r.session n).id = id ∧ (r.session n).state = .exit
  left_once : (leavers steps entries).Nodup
  owned : ∀ p ∈ steps, p.event.action.endsSession = true →
    ∃ n < r.created.size, (r.session n).id = p.event.session ∧ (r.session n).user = p.user
  gone : ∀ e ∈ entries, e.cause ≠ .left → ∃ n < r.created.size, (r.session n).id = e.session ∧
    r.sessions[e.session]? = none ∧ e.cause.Fits (r.session n).state
  gone_once : (removed entries).Nodup

variable {r r' : Registry} {steps : List Pending} {es : List Entry}

lemma Books.mono (h : Books r steps es) (hs : r'.Sound) (hg : r.Grows r') (hr : r.Rests r') :
    Books r' steps es where
  sound := hs
  left id hid := by
    obtain ⟨n, hn, rfl, hx⟩ := h.left id hid
    exact ⟨n, Nat.lt_of_lt_of_le hn hg.size, hg.id n hn, (hr n hn).trans hx⟩
  left_once := h.left_once
  owned p hp he := by
    obtain ⟨n, hn, hid, hu⟩ := h.owned p hp he
    exact ⟨n, Nat.lt_of_lt_of_le hn hg.size, (hg.id n hn).trans hid, (hg.user n hn).trans hu⟩
  gone e he hc := by
    obtain ⟨n, hn, hid, hz, hf⟩ := h.gone e he hc
    refine ⟨n, Nat.lt_of_lt_of_le hn hg.size, (hg.id n hn).trans hid, ?_, by rwa [hr n hn]⟩
    rw [← hid] at hz ⊢
    exact hg.gone n hn hz
  gone_once := h.gone_once

/-- Sessions that were registered may be taken out for a cause and counted. -/
lemma Books.remove (h : Books r steps es) (hs : r'.Sound) (hg : r.Grows r') (hr : r.Rests r')
    {new : List Entry} (hnew : ∀ e ∈ new, e.cause ≠ .left ∧ ∃ n < r.created.size,
      (r.session n).id = e.session ∧ r.sessions[e.session]? ≠ none ∧
        r'.sessions[e.session]? = none ∧ e.cause.Fits (r.session n).state)
    (honce : (new.map (·.session)).Nodup) : Books r' steps (es ++ new) := by
  have hb := h.mono hs hg hr
  have hl : new.filter (·.cause = .left) = [] :=
    List.filter_eq_nil_iff.mpr fun e he => by simpa using (hnew e he).1
  have ha : new.filter (·.cause ≠ .left) = new :=
    List.filter_eq_self.mpr fun e he => by simpa using (hnew e he).1
  have hleft : leavers steps (es ++ new) = leavers steps es := by
    simp only [leavers, List.filter_append, hl, List.append_nil]
  refine
    { sound := hs
      left := by rw [hleft]; exact hb.left
      left_once := by rw [hleft]; exact hb.left_once
      owned := hb.owned
      gone := fun e he hc => ?_
      gone_once := ?_ }
  · rcases List.mem_append.mp he with he | he
    · exact hb.gone e he hc
    · obtain ⟨-, n, hn, hid, -, hz, hf⟩ := hnew e he
      exact ⟨n, Nat.lt_of_lt_of_le hn hg.size, (hg.id n hn).trans hid, hz, by rwa [hr n hn]⟩
  · have happ : removed (es ++ new) = removed es ++ new.map (·.session) := by
      simp only [removed, List.filter_append, ha, List.map_append]
    rw [happ]
    refine h.gone_once.append honce fun id hid hid' => ?_
    obtain ⟨e, he, rfl⟩ := List.mem_map.mp hid
    obtain ⟨e', he', heq⟩ := List.mem_map.mp hid'
    obtain ⟨hmem, hc⟩ := List.mem_filter.mp he
    obtain ⟨-, -, -, hz, -⟩ := h.gone e hmem (by simpa using hc)
    obtain ⟨-, -, -, -, hne, -⟩ := hnew e' he'
    exact hne (by rw [heq, hz])

/-- Replacing a session for having expired is counted once. -/
lemma Books.obtain (h : Books r steps es) (user : String) (now : Time) :
    Books (r.obtain user now).1 steps (es ++ replacement r user now) := by
  have ho := h.sound.obtained user now
  refine h.remove (h.sound.obtain user now) ho.grows ho.rests (fun e he => ?_) ?_
  · obtain ⟨id, hid, rfl⟩ := List.mem_map.mp he
    obtain ⟨m, hm, hmid, hs, hz, hx⟩ := ho.replaced id (by simpa using hid)
    exact ⟨Cause.noConfusion, m, hm, hmid, by simp [hs], hz, hx⟩
  · unfold replacement
    cases (r.obtain user now).2.2.replaced <;> simp

/-- Every swept session is counted once. -/
lemma Books.sweep (h : Books r steps es) (now : Time) :
    Books (r.sweep now).1 steps
      (es ++ (r.expired now).map fun id => ⟨id, .swept (placeOf r id)⟩) := by
  obtain ⟨hg, hr⟩ := r.sweep_grows now
  refine h.remove (h.sound.sweep now) hg hr (fun e he => ?_) ?_
  · obtain ⟨id, hid, rfl⟩ := List.mem_map.mp he
    obtain ⟨n, hn, -⟩ := Registry.mem_expired.mp hid
    obtain ⟨hlt, hnid⟩ := h.sound.named hn
    refine ⟨Cause.noConfusion, n, hlt, hnid, by simp [hn], ?_, by simp [Cause.Fits, placeOf, hn]⟩
    rw [Registry.sweep_sessions, if_pos hid]
  · simpa [List.map_map, Function.comp_def] using r.expired_nodup now

/-! ### Moving a session on -/

/-- A registered session that has not left is not among the leavers. -/
lemma Books.not_leaver (h : Books r steps es) {n : Nat} (hn : n < r.created.size)
    (hx : (r.session n).state ≠ .exit) : (r.session n).id ∉ leavers steps es := by
  intro hid
  obtain ⟨m, hm, he, hmx⟩ := h.left _ hid
  rw [h.sound.number_eq hm hn he] at hmx
  exact hx hmx

/-- A registered session may be changed, if that does not bring anyone back from the exit. -/
lemma Books.write (h : Books r steps es) {n : Nat} (hn : r.sessions[(r.session n).id]? = some n)
    {f : Session → Session} (hf : r.Allowed (.write n f))
    (hx : (r.session n).state = .exit → (f (r.session n)).state = .exit) :
    Books (r.update n f) steps es where
  sound := h.sound.update hf
  left id hid := by
    obtain ⟨m, hm, rfl, hmx⟩ := h.left id hid
    refine ⟨m, by simpa using hm, Registry.session_update_of_kept Session.id hf.1 m, ?_⟩
    by_cases hnm : n = m
    · subst hnm
      rw [Registry.session_update_self hm]
      exact hx hmx
    · rw [Registry.session_update_ne hnm, hmx]
  left_once := h.left_once
  owned p hp he := by
    obtain ⟨m, hm, hid, hu⟩ := h.owned p hp he
    exact ⟨m, by simpa using hm, (Registry.session_update_of_kept Session.id hf.1 m).trans hid,
      (Registry.session_update_of_kept Session.user hf.2 m).trans hu⟩
  gone e he hc := by
    obtain ⟨m, hm, hid, hz, hfit⟩ := h.gone e he hc
    have hnm : n ≠ m := by
      rintro rfl
      rw [hid, hz] at hn
      cases hn
    exact ⟨m, by simpa using hm, by rw [Registry.session_update_ne hnm, hid], hz,
      by rwa [Registry.session_update_ne hnm]⟩
  gone_once := h.gone_once

/-! ### Steps under way -/

/-- Only the steps that make a visitor leave matter, in no particular order. -/
lemma Books.reorder (h : Books r steps es) {steps' : List Pending}
    (hl : (leavers steps' es).Perm (leavers steps es))
    (hm : ∀ p ∈ steps', p.event.action.endsSession = true → p ∈ steps) : Books r steps' es where
  sound := h.sound
  left id hid := h.left id (hl.mem_iff.mp hid)
  left_once := hl.nodup_iff.mpr h.left_once
  owned p hp he := h.owned p (hm p hp he) he
  gone := h.gone
  gone_once := h.gone_once

lemma Books.perm (h : Books r steps es) {steps' : List Pending} (hp : steps'.Perm steps) :
    Books r steps' es :=
  h.reorder (((hp.filter _).map _).append_left _) fun _ hm _ => hp.mem_iff.mp hm

/-- A step that has begun. If it makes a visitor leave, that visitor had not left before. -/
lemma Books.begin (h : Books r steps es) {p : Pending} (hp : p.event.action.endsSession = true →
    p.event.session ∉ leavers steps es ∧ ∃ n < r.created.size,
      (r.session n).id = p.event.session ∧ (r.session n).user = p.user ∧
        (r.session n).state = .exit) : Books r (p :: steps) es := by
  rcases he : p.event.action.endsSession with _ | _
  · refine h.reorder (by simp [leavers, he]) fun q hq hqe => ?_
    rcases List.mem_cons.mp hq with rfl | hq
    · rw [he] at hqe
      cases hqe
    · exact hq
  · obtain ⟨hnew, n, hn, hid, hu, hx⟩ := hp he
    have hl : (leavers (p :: steps) es).Perm (p.event.session :: leavers steps es) := by
      simp [leavers, he]
    refine
      { sound := h.sound
        left := fun id hm => ?_
        left_once := hl.nodup_iff.mpr (List.nodup_cons.mpr ⟨hnew, h.left_once⟩)
        owned := fun q hq hqe => ?_
        gone := h.gone
        gone_once := h.gone_once }
    · rcases List.mem_cons.mp (hl.mem_iff.mp hm) with rfl | hm
      · exact ⟨n, hn, hid, hx⟩
      · exact h.left id hm
    · rcases List.mem_cons.mp hq with rfl | hq
      · exact ⟨n, hn, hid, hu⟩
      · exact h.owned q hq hqe

/-- A step that ends. If it made a visitor leave, the session is deleted and counted. -/
lemma Books.finish {p : Pending} (h : Books r (p :: steps) es) :
    Books (if p.event.action.endsSession then (r.delete p.user p.event.session).1 else r) steps
      (es ++ if p.event.action.endsSession then [⟨p.event.session, .left⟩] else []) := by
  rcases he : p.event.action.endsSession with _ | _
  · rw [if_neg Bool.false_ne_true, if_neg Bool.false_ne_true, List.append_nil]
    exact h.reorder (by simp [leavers, he]) fun q hq _ => List.mem_cons_of_mem _ hq
  · obtain ⟨n, hn, hid, hu⟩ := h.owned p (List.mem_cons_self ..) he
    have ha := h.sound.allowed_delete hn
    rw [hid, hu] at ha
    obtain ⟨hg, hr⟩ := r.delete_grows p.user p.event.session
    have hb := h.mono (h.sound.delete ha) hg hr
    have hl : (leavers steps (es ++ [⟨p.event.session, .left⟩])).Perm
        (leavers (p :: steps) es) := by
      simp [leavers, he]
    have hrem : removed (es ++ [⟨p.event.session, .left⟩]) = removed es := by simp [removed]
    rw [if_pos rfl, if_pos rfl]
    refine
      { sound := hb.sound
        left := fun id hm => hb.left id (hl.mem_iff.mp hm)
        left_once := hl.nodup_iff.mpr hb.left_once
        owned := fun q hq => hb.owned q (List.mem_cons_of_mem _ hq)
        gone := fun e hm hc => ?_
        gone_once := by rw [hrem]; exact hb.gone_once }
    rcases List.mem_append.mp hm with hm | hm
    · exact hb.gone e hm hc
    · exact absurd (by rw [List.mem_singleton.mp hm]) hc

/-! ### Runs -/

/-- The counter agrees with the ledger, and the ledger with everything else. -/
structure Audited (c : Crowd) (es : List Entry) : Prop where
  table : c.sim.table = .standard
  tally : c.sim.completed = es.length
  books : Books c.sim.registry c.steps es

variable {c : Crowd}

lemma start_audited (ttl : Time) (capacity : Nat) (visitors : Visitors)
    (users engine payloads : Source) :
    (start ttl capacity visitors users engine payloads).Audited [] where
  table := rfl
  tally := rfl
  books :=
    { sound := Registry.sound_empty ttl
      left := by simp [leavers, steps, start]
      left_once := by simp [leavers, steps, start]
      owned := by simp [steps, start]
      gone := by simp
      gone_once := by simp [removed] }

/-- A visitor who cannot move may have entered, and is taken out without being counted if the visit
is over. -/
lemma Books.stay (h : Books r steps es) {user : String} {r₀ : Registry} {n : Nat} {o : Origin}
    (ho : r₀.Obtained user r n o) :
    let r' := r.update n fun _ => (r.session n).enter
    Books (if (r'.session n).state.isTerminal then (r'.delete user (r'.session n).id).1 else r')
      steps es := by
  intro r'
  have hs : r'.session n = (r.session n).enter := Registry.session_update_self ho.handle _
  have hw : Books r' steps es :=
    h.write ho.registered ⟨rfl, rfl⟩ fun hx => absurd hx ho.inside
  split
  · have ha := hw.sound.allowed_delete (n := n) (by simpa [r'] using ho.handle)
    rw [show (r'.session n).user = user by rw [hs]; exact ho.user] at ha
    obtain ⟨hg, hr⟩ := r'.delete_grows user (r'.session n).id
    exact hw.mono (hw.sound.delete ha) hg hr
  · exact hw

/-- A visitor who moves. -/
lemma Books.move (h : Books r steps es) {user : String} {r₀ : Registry} {n : Nat} {o : Origin}
    (ho : r₀.Obtained user r n o) {now : Time} {s' : Session} {e : Event}
    (hm : (r.session n).Moved .standard now s' e) :
    Books (r.update n fun _ => s') (⟨user, e⟩ :: steps) es := by
  have hs : (r.update n fun _ => s').session n = s' := Registry.session_update_self ho.handle _
  have hw : Books (r.update n fun _ => s') steps es :=
    h.write ho.registered ⟨hm.id, hm.user⟩ fun hx => absurd hx ho.inside
  refine hw.begin fun he => ?_
  obtain ⟨-, hid, -⟩ := hm.told
  dsimp only at he ⊢
  refine ⟨?_, n, by simpa using ho.handle, ?_, ?_, ?_⟩
  · rw [hid, hm.id]
    exact h.not_leaver ho.handle ho.inside
  · rw [hs, hid]
  · rw [hs, hm.user, ho.user]
  · rw [hs]
    exact hm.exited Table.standard_exitsOnly he

lemma Audited.begin (h : c.Audited es) (now : Time) :
    (c.perform (.begin now)).Audited (es ++ c.entries (.begin now)) := by
  have ht := (c.sim.begin_undisturbed now).table.trans h.table
  rcases c.sim.begin_cases now with ⟨hd, hb⟩ | ⟨user, hd, ⟨sim₂, ha, hb⟩ | ⟨sim₂, e, ha, hb⟩⟩
  · simp only [Crowd.perform, entries, hd, hb, List.append_nil]
    exact ⟨h.table, h.tally, h.books⟩
  · obtain ⟨-, hc, hr⟩ := Simulation.advance_none ha
    rw [Simulation.obtain_registry, Simulation.obtain_handle] at hr
    rw [hb] at ht
    simp only [Crowd.perform, entries, hd, hb]
    refine ⟨ht, ?_, ?_⟩
    · rw [(sim₂.retire_undisturbed _ _).2, hc, Simulation.obtain_completed, List.length_append,
        length_replacement, ← h.tally]
      rfl
    · rw [Simulation.retire_registry, hr]
      exact (h.books.obtain user now).stay (h.books.sound.obtained user now)
  · obtain ⟨hu, hc, s', hm, hr⟩ := Simulation.advance_some ha
    rw [Simulation.obtain_registry, Simulation.obtain_handle] at hr hm
    rw [(Simulation.obtain_undisturbed _ _ _).table, show c.sim.drawVisitor.1.table = .standard
      from h.table] at hm
    rw [hb] at ht
    simp only [Crowd.perform, entries, hd, hb]
    refine ⟨ht, ?_, ?_⟩
    · rw [(sim₂.countMove_undisturbed e).2, hc, Simulation.obtain_completed, List.length_append,
        length_replacement, ← h.tally]
      rfl
    · rw [Simulation.countMove_registry, hr]
      refine ((h.books.obtain user now).move (h.books.sound.obtained user now) hm).perm ?_
      simp [steps]

lemma Audited.send (h : c.Audited es) (place : Nat) :
    (c.perform (.send place)).Audited (es ++ c.entries (.send place)) := by
  rcases hp : c.underway[place]? with _ | u
  · simp only [Crowd.perform, entries, hp, List.append_nil]
    exact h
  obtain ⟨hlt, rfl⟩ := List.getElem?_eq_some_iff.mp hp
  rcases ha : attempt c.sim c.underway[place] with ⟨sim, _ | _⟩
  · obtain ⟨ht, hc, hr⟩ := attempt_blocked (congrArg Prod.snd ha)
    rw [ha] at ht hc hr
    simp only [Crowd.perform, entries, hp, ha, Bool.false_and, Bool.false_eq_true, if_false,
      List.append_nil]
    refine ⟨ht.trans h.table, hc.trans h.tally, ?_⟩
    rw [steps_wait sim hlt, hr]
    exact h.books
  · obtain ⟨ht, hc, hr⟩ := attempt_ended (congrArg Prod.snd ha)
    rw [ha] at ht hc hr
    simp only [Crowd.perform, entries, hp, ha, Bool.true_and]
    refine ⟨ht.trans h.table, ?_, ?_⟩
    · rw [hc, h.tally, List.length_append]
      split <;> rfl
    · rw [hr]
      exact (h.books.perm (steps_erase sim hlt)).finish

lemma Audited.perform (h : c.Audited es) (m : Move) :
    (c.perform m).Audited (es ++ c.entries m) := by
  cases m with
  | begin now => exact h.begin now
  | send place => exact h.send place
  | receive =>
    simp only [Crowd.perform, entries, List.append_nil]
    split
    · exact h
    · exact ⟨h.table, h.tally, h.books⟩
  | close =>
    simp only [Crowd.perform, entries, List.append_nil]
    exact ⟨h.table, h.tally, h.books⟩
  | sweep now =>
    refine ⟨(c.sim.sweep_undisturbed now).table.trans h.table, ?_, ?_⟩
    · simp only [Crowd.perform, entries, Simulation.sweep_completed, h.tally, List.length_append,
        List.length_map]
      rfl
    · simp only [Crowd.perform, entries, Simulation.sweep_registry]
      exact h.books.sweep now
  | lookUp user now =>
    refine ⟨(c.sim.obtain_undisturbed user now).table.trans h.table, ?_, ?_⟩
    · simp only [Crowd.perform, entries, Simulation.obtain_completed, h.tally,
        List.length_append, length_replacement]
    · simp only [Crowd.perform, entries, Simulation.obtain_registry]
      exact h.books.obtain user now
  | grow least =>
    simp only [Crowd.perform, entries, List.append_nil]
    refine ⟨(c.sim.ensureVisitors_undisturbed least).table.trans h.table, ?_, ?_⟩
    · rw [Simulation.ensureVisitors_completed, h.tally]
    · rw [Simulation.ensureVisitors_registry]
      exact h.books

lemma Audited.run (h : c.Audited es) (moves : List Move) :
    (c.run moves).Audited (es ++ c.ledger moves) := by
  induction moves generalizing c es with
  | nil => simpa [ledger] using h
  | cons m moves ih =>
    rw [run_cons, ledger, ← List.append_assoc]
    exact ih (h.perform m)

/-! ### How often a session is counted -/

def timesCounted (es : List Entry) (session : String) : Nat := (es.map (·.session)).count session

/-- The sessions whose steps to the exit have ended. -/
def exited (es : List Entry) : List String := (es.filter (·.cause = .left)).map (·.session)

/-- The sessions that were swept after their visitors had left, and whose last steps have ended. -/
def doubles (es : List Entry) : List Entry :=
  es.filter fun e => e.cause = .swept .exit ∧ ⟨e.session, .left⟩ ∈ es

lemma mem_exited {id : String} : id ∈ exited es ↔ ⟨id, .left⟩ ∈ es := by
  constructor
  · intro h
    obtain ⟨⟨session, cause⟩, he, rfl⟩ := List.mem_map.mp h
    obtain ⟨hm, hc⟩ := List.mem_filter.mp he
    obtain rfl : cause = .left := by simpa using hc
    exact hm
  · intro h
    exact List.mem_map.mpr ⟨_, List.mem_filter.mpr ⟨h, by simp⟩, rfl⟩

lemma exited_append_removed (es : List Entry) :
    (exited es ++ removed es).Perm (es.map (·.session)) := by
  have h := (List.filter_append_perm (fun e : Entry => decide (e.cause = .left)) es).map (·.session)
  simpa [exited, removed] using h

lemma Books.exited_nodup (h : Books r steps es) : (exited es).Nodup :=
  (List.nodup_append.mp h.left_once).1

/-- A session that has left was not removed for another cause, unless a sweep found it at the
exit. -/
lemma Books.cause_eq (h : Books r steps es) {e : Entry} (he : e ∈ es) (hc : e.cause ≠ .left)
    (hl : e.session ∈ exited es) : e.cause = .swept .exit := by
  obtain ⟨n, hn, hid, -, hf⟩ := h.gone e he hc
  obtain ⟨m, hm, hmid, hx⟩ := h.left e.session (List.mem_append_left _ hl)
  rw [h.sound.number_eq hn hm (hid.trans hmid.symm)] at hf
  rcases hcause : e.cause with _ | place | _ <;> rw [hcause] at hf
  · exact absurd hx hf
  · rw [← hx.symm.trans hf]
  · exact absurd hcause hc

lemma Books.doubles_eq (h : Books r steps es) :
    (doubles es).map (·.session) = (removed es).filter (· ∈ exited es) := by
  rw [doubles, removed, List.filter_map, List.filter_filter]
  congr 1
  refine List.filter_congr fun e he => Bool.eq_iff_iff.mpr ?_
  simp only [decide_eq_true_eq, Bool.and_eq_true, Function.comp_apply, mem_exited]
  constructor
  · rintro ⟨hc, hl⟩
    exact ⟨hl, by rw [hc]; exact Cause.noConfusion⟩
  · rintro ⟨hl, hc⟩
    exact ⟨h.cause_eq he hc (mem_exited.mpr hl), hl⟩

lemma mem_doubles {id : String} :
    id ∈ (doubles es).map (·.session) ↔ ⟨id, .swept .exit⟩ ∈ es ∧ ⟨id, .left⟩ ∈ es := by
  constructor
  · intro h
    obtain ⟨⟨session, cause⟩, he, rfl⟩ := List.mem_map.mp h
    obtain ⟨hm, hc⟩ := List.mem_filter.mp he
    obtain ⟨rfl, hl⟩ : cause = .swept .exit ∧ _ := of_decide_eq_true hc
    exact ⟨hm, hl⟩
  · rintro ⟨hs, hl⟩
    exact List.mem_map.mpr ⟨_, List.mem_filter.mpr ⟨hs, decide_eq_true ⟨rfl, hl⟩⟩, rfl⟩

/-- Only sessions that were created are counted. -/
lemma Books.created (h : Books r steps es) {e : Entry} (he : e ∈ es) :
    ∃ n < r.created.size, (r.session n).id = e.session := by
  by_cases hc : e.cause = .left
  · obtain ⟨session, cause⟩ := e
    obtain rfl : cause = .left := hc
    obtain ⟨n, hn, hid, -⟩ := h.left session (List.mem_append_left _ (mem_exited.mpr he))
    exact ⟨n, hn, hid⟩
  · obtain ⟨n, hn, hid, -⟩ := h.gone e he hc
    exact ⟨n, hn, hid⟩

lemma timesCounted_eq (es : List Entry) (id : String) :
    timesCounted es id = (exited es).count id + (removed es).count id := by
  rw [timesCounted, ← (exited_append_removed es).count_eq, List.count_append]

/-- A session is counted at most twice, and twice only if it was swept after its visitor had left
and its last step has ended. -/
lemma Books.timesCounted_eq_two_iff (h : Books r steps es) (id : String) :
    timesCounted es id ≤ 2 ∧
      (timesCounted es id = 2 ↔ id ∈ (doubles es).map (·.session)) := by
  have hl := List.nodup_iff_count_le_one.mp h.exited_nodup id
  have hr := List.nodup_iff_count_le_one.mp h.gone_once id
  rw [h.doubles_eq, List.mem_filter, decide_eq_true_eq, ← List.count_pos_iff, ← List.count_pos_iff,
    timesCounted_eq]
  omega

/-- Without the second entry for a session that is counted twice, the ledger has one entry for each
of some sessions. -/
lemma Books.length_le (h : Books r steps es) :
    es.length ≤ r.created.size + (doubles es).length := by
  have hsplit : es.length = (exited es).length + (removed es).length := by
    rw [← List.length_append, (exited_append_removed es).length_eq, List.length_map]
  have hrem : (removed es).length = ((removed es).filter (· ∈ exited es)).length +
      ((removed es).filter (· ∉ exited es)).length := by
    have hp := List.filter_append_perm (fun id : String => decide (id ∈ exited es)) (removed es)
    simpa using hp.length_eq.symm
  have honce : (exited es ++ (removed es).filter (· ∉ exited es)).Nodup := by
    refine h.exited_nodup.append (h.gone_once.filter _) fun id hid hid' => ?_
    exact (of_decide_eq_true (List.mem_filter.mp hid').2) hid
  have hsub : exited es ++ (removed es).filter (· ∉ exited es) ⊆
      (List.range r.created.size).map fun n => (r.session n).id := by
    intro id hid
    have hmem : id ∈ es.map (·.session) := by
      refine (exited_append_removed es).mem_iff.mp (List.mem_append.mpr ?_)
      exact (List.mem_append.mp hid).imp_right List.mem_of_mem_filter
    obtain ⟨e, he, rfl⟩ := List.mem_map.mp hmem
    obtain ⟨n, hn, hid⟩ := h.created he
    exact List.mem_map.mpr ⟨n, List.mem_range.mpr hn, hid⟩
  have hle := (honce.subperm hsub).length_le
  rw [List.length_append, List.length_map, List.length_range] at hle
  have htwice := congrArg List.length h.doubles_eq
  rw [List.length_map] at htwice
  omega

/-- **How often a session is counted as completed.** The counter goes up once for each entry of the
ledger, and every entry is for one session that was created. A session has at most two entries. It
has two exactly if a sweep found its visitor at the exit and the step that led there has ended; so
there are no more entries than sessions, but for those that a sweep counted in this way. -/
theorem run_completed (ttl : Time) (capacity : Nat) (visitors : Visitors)
    (users engine payloads : Source) (moves : List Move) :
    let c := (start ttl capacity visitors users engine payloads).run moves
    let r := c.sim.registry
    let es := (start ttl capacity visitors users engine payloads).ledger moves
    c.sim.completed = es.length ∧
    (∀ e ∈ es, ∃! n, n < r.created.size ∧ (r.session n).id = e.session) ∧
    (∀ id, timesCounted es id ≤ 2) ∧
    (∀ id, timesCounted es id = 2 ↔ ⟨id, .swept .exit⟩ ∈ es ∧ ⟨id, .left⟩ ∈ es) ∧
    c.sim.completed ≤ r.created.size + (doubles es).length := by
  intro c r es
  have h : c.Audited es := (start_audited ttl capacity visitors users engine payloads).run moves
  refine ⟨h.tally, fun e he => ?_, fun id => (h.books.timesCounted_eq_two_iff id).1, fun id => ?_,
    h.tally ▸ h.books.length_le⟩
  · obtain ⟨n, hn, hid⟩ := h.books.created he
    exact ⟨n, ⟨hn, hid⟩, fun m hm => h.books.sound.number_eq hm.1 hn (hm.2.trans hid.symm)⟩
  · rw [(h.books.timesCounted_eq_two_iff id).2, mem_doubles]

/-- Whenever a sweep takes out a session whose last step is under way, and that step can then send
its event, the session is counted twice. -/
lemma Audited.counted_twice (h : c.Audited es) (place : Nat) (now : Time) {u : Underway}
    (hu : c.underway[place]? = some u) (he : u.step.event.action.endsSession = true)
    (hx : u.step.event.session ∈ c.sim.registry.expired now)
    (hs : (attempt (c.sim.sweep now).1 u).2 = true) :
    timesCounted (es ++ c.ledger [.sweep now, .send place]) u.step.event.session = 2 := by
  have hb := ((h.run [.sweep now, .send place]).books)
  rw [(hb.timesCounted_eq_two_iff _).2, mem_doubles]
  have hp : u.step ∈ c.steps := List.mem_map.mpr ⟨u, List.mem_of_getElem? hu, rfl⟩
  obtain ⟨n, hn, hid, hexit⟩ := h.books.left u.step.event.session
    (List.mem_append_right _ (List.mem_map.mpr ⟨u.step, List.mem_filter.mpr ⟨hp, he⟩, rfl⟩))
  obtain ⟨m, hm, -⟩ := Registry.mem_expired.mp hx
  obtain ⟨hlt, hmid⟩ := h.books.sound.named hm
  obtain rfl := h.books.sound.number_eq hlt hn (hmid.trans hid.symm)
  constructor
  · refine List.mem_append_right _ (List.mem_append_left _ (List.mem_map.mpr ⟨_, hx, ?_⟩))
    simp [placeOf, hm, hexit]
  · refine List.mem_append_right _ (List.mem_append_right _ (List.mem_append_left _ ?_))
    simp only [entries, Crowd.perform, hu, hs, he]
    exact List.mem_singleton_self _

/-- The visitor leaves at once. The session expires before the event is sent, and is swept. -/
theorem run_completed_twice :
    let c := start 10 1 ⟨#["user_1"]⟩ (.seeded 0) (.seeded 2) (.seeded 0)
    let moves := [Move.begin 0, .sweep 10, .send 0]
    timesCounted (c.ledger moves) "sess_user_1_0_1" = 2 ∧
      (c.run moves).sim.registry.created.size < (c.run moves).sim.completed := by
  intro c moves
  have hdraw : c.sim.drawVisitor.2 = some "user_1" := by decide +kernel
  have hid : c.sim.registry.newId "user_1" 0 = "sess_user_1_0_1" := by decide +kernel
  have hstep : ((Session.begin "sess_user_1_0_1" "user_1" 0 10).step .standard 0
      (.seeded 2)).1.2.map (·.action) = some .exit := by decide +kernel
  obtain ⟨sim, e, s', hb, ha, hm, hr⟩ :=
    Simulation.begin_new hdraw (by simp [c, start]) (by rw [hid]; exact hstep)
  rw [hid] at hm
  have h₁ : c.perform (.begin 0) = ⟨sim, [{ step := ⟨"user_1", e⟩ }]⟩ := by
    simp only [Crowd.perform, hb]
    rfl
  have he : e.session = "sess_user_1_0_1" := hm.told.2.1.trans hm.id
  have hexpired : "sess_user_1_0_1" ∈ sim.registry.expired 10 := by
    rw [Registry.mem_expired, hr]
    refine ⟨0, ?_, ?_⟩
    · rw [Registry.update_sessions, Registry.openSession_sessions, if_pos hid]
      rfl
    · rw [show c.sim.registry.created.size = 0 from rfl, Registry.session_update_self
        (by simp [Registry.openSession_created_size]), Session.isExpired, hm.expiry]
      decide +kernel
  have hout : (sim.sweep 10).1.output = { capacity := 1 } := by
    have := (c.sim.begin_undisturbed 0).output
    rw [hb] at this
    exact (sim.sweep_undisturbed 10).output.trans this
  have hsend : (attempt (sim.sweep 10).1 { step := ⟨"user_1", e⟩ }).2 = true := by
    simp [attempt, Simulation.send, hout, Queue.hasRoom, Queue.used]
  have h : c.Audited [] := start_audited 10 1 ⟨#["user_1"]⟩ (.seeded 0) (.seeded 2) (.seeded 0)
  have hledger : c.ledger moves = [] ++ c.entries (.begin 0) ++
      ledger ⟨sim, [{ step := ⟨"user_1", e⟩ }]⟩ [.sweep 10, .send 0] := by
    rw [← h₁]
    rfl
  have htwice : timesCounted (c.ledger moves) "sess_user_1_0_1" = 2 := by
    have hp := h.perform (.begin 0)
    rw [h₁] at hp
    rw [hledger, ← he]
    exact hp.counted_twice 0 10 rfl (by rw [ha]; rfl) (by rwa [he]) hsend
  have hcount : 2 ≤ (c.run moves).sim.completed := by
    rw [(h.run moves).tally, ← htwice]
    exact Nat.le_trans List.count_le_length (Nat.le_of_eq (List.length_map ..))
  have hsize : (c.run moves).sim.registry.created.size = 1 := by
    simp only [moves, run_cons, run_nil, h₁]
    have hs := (attempt_ended hsend).2.2
    rw [if_pos (by rw [ha]; rfl)] at hs
    rw [perform_send_sim rfl]
    refine (congrArg (·.created.size) hs).trans ?_
    rw [Registry.delete_created, Simulation.sweep_registry, Registry.sweep_created, hr,
      Registry.update_size, Registry.openSession_created_size]
    rfl
  exact ⟨htwice, by omega⟩

end Crowd

end ShopTraffic
