import ShopTraffic.Proofs.Behaviour.Walks

/-!
A visit by itself, with the events that are made in it. It is prolonged and moves on, any number of
times and in any order, and each move can draw from other numbers.
-/

namespace ShopTraffic

open ShopTraffic.Random

structure Visit where
  session : Session
  events : List Event := []

namespace Visit

inductive Turn
  | renew (now ttl : Time)
  | step (now : Time) (engine payloads : Source)

def perform (T : Table) (v : Visit) : Turn → Visit
  | .renew now ttl => { v with session := v.session.touch now ttl }
  | .step now engine payloads =>
    match (v.session.step T now engine).1 with
    | (s, none) => { v with session := s }
    | (s, some e) =>
      let g := (Payload.generate e.action s payloads).1
      ⟨g.session, v.events ++ [e.withExtra g.fields]⟩

def run (T : Table) (v : Visit) (turns : List Turn) : Visit := turns.foldl (perform T) v

def start (id user : String) (now ttl : Time) : Visit :=
  { session := Session.begin id user now ttl }

def Reached (T : Table) (v : Visit) : Prop :=
  ∃ id user now ttl turns, v = (start id user now ttl).run T turns

/-- The steps that draw their moves from the given seeds. -/
def seeded (seeds : List UInt64) : List Turn := seeds.map fun k => .step 0 (.seeded k) (.seeded 0)

variable {T : Table} {v v' : Visit} {turn : Turn}

@[simp] lemma run_nil (T : Table) (v : Visit) : v.run T [] = v := rfl

@[simp] lemma run_cons (T : Table) (v : Visit) (turn : Turn) (turns : List Turn) :
    v.run T (turn :: turns) = (v.perform T turn).run T turns := rfl

lemma reached_start (T : Table) (id user : String) (now ttl : Time) :
    Reached T (start id user now ttl) :=
  ⟨id, user, now, ttl, [], rfl⟩

lemma Reached.perform (h : Reached T v) (turn : Turn) : Reached T (v.perform T turn) := by
  obtain ⟨id, user, now, ttl, turns, rfl⟩ := h
  exact ⟨id, user, now, ttl, turns ++ [turn], by simp [run]⟩

inductive Effect (T : Table) (v : Visit) : Visit → Prop
  | renewed (now ttl : Time) : Effect T v { v with session := v.session.touch now ttl }
  | stayed : Effect T v { v with session := v.session.enter }
  | moved (now : Time) (t : Transition) (s : Session) (e : Event) (g : Payload.Generated)
      (h : v.session.Took T now t s e) (hg : Payload.Tells s e.action g) :
      Effect T v ⟨g.session, v.events ++ [e.withExtra g.fields]⟩

lemma perform_effect (T : Table) (v : Visit) (turn : Turn) : Effect T v (v.perform T turn) := by
  cases turn with
  | renew now ttl => exact .renewed now ttl
  | step now engine payloads =>
    have h := v.session.step_took T now engine
    simp only [perform]
    rcases hr : (v.session.step T now engine).1 with ⟨s, _ | e⟩ <;> rw [hr] at h
    · obtain rfl : s = v.session.enter := h
      exact .stayed
    · obtain ⟨t, ht⟩ := h
      exact .moved now t s e _ ht (Payload.generate_tells s e.action payloads)

/-- What holds at the beginning of a visit and is kept by every turn holds all along. -/
lemma Reached.induct {P : Visit → Prop} (hstart : ∀ id user now ttl, P (start id user now ttl))
    (hstep : ∀ v v', P v → Effect T v v' → P v') (h : Reached T v) : P v := by
  obtain ⟨id, user, now, ttl, turns, rfl⟩ := h
  have hrun : ∀ v, P v → P (v.run T turns) := by
    induction turns with
    | nil => exact fun v h => h
    | cons turn turns ih => exact fun v h => ih _ (hstep _ _ h (v.perform_effect T turn))
  exact hrun _ (hstart id user now ttl)

/-- The event has the members that the payload of some session at its place can have. -/
def Told (e : Event) : Prop :=
  ∃ s p, Payload.Makes s e.action p ∧ s.state = e.state ∧ s.previous = e.previous ∧
    ∀ key, Event.isReserved key = false → Fields.last? (Payload.common p.session) key = none →
      e.extra.get? key = Fields.last? p.members key

lemma Effect.told (he : Effect T v v') (h : ∀ e ∈ v.events, Told e) : ∀ e ∈ v'.events, Told e := by
  cases he with
  | renewed | stayed => exact h
  | moved now t s e g ht hg =>
    intro x hx
    rcases List.mem_append.mp hx with hx | hx
    · exact h x hx
    · obtain rfl := List.mem_singleton.mp hx
      obtain ⟨p, hp, -, hget⟩ := hg.get? ht.extra
      obtain ⟨-, -, hstate, hprevious, -⟩ := ht.told
      exact ⟨s, p, hp, hstate.symm, hprevious.symm, hget⟩

/-- **Every event tells what a payload of its action can tell.** -/
lemma Reached.told (h : Reached T v) : ∀ e ∈ v.events, Told e :=
  h.induct (P := fun v => ∀ e ∈ v.events, Told e) (fun _ _ _ _ => nofun) fun _ _ h he => he.told h

/-! ### The walk of a visit -/

/-- The events form a walk, and the visitor is where they lead to. -/
structure Walking (T : Table) (v : Visit) : Prop where
  walk : T.Walk v.events
  state : v.session.state = reachedBy v.events
  previous : v.session.previous = cameFrom v.events

lemma state_inside (h : T.LeadsInside) (hw : Walking T v) : v.session.state ≠ .outside := by
  rw [hw.state]
  rcases List.eq_nil_or_concat v.events with hnil | ⟨before, e, hlast⟩
  · rw [hnil]
    exact State.noConfusion
  · rw [hlast, List.concat_eq_append, reachedBy_concat]
    exact (hw.walk.inside h e (by simp [hlast])).1

lemma Effect.walking (he : Effect T v v') (hT : T.LeadsInside) (h : Walking T v) :
    Walking T v' := by
  have hinside := state_inside hT h
  have henter : v.session.enter = v.session := Session.enter_of_inside hinside
  cases he with
  | renewed => exact ⟨h.walk, h.state, h.previous⟩
  | stayed =>
    rw [henter]
    exact h
  | moved now t s e g ht hg =>
    have hm := ht.moved.described hg.keeps g.fields
    have hmem := ht.mem
    have hfrom := hm.previous
    rw [henter] at hmem hfrom
    obtain ⟨-, -, hstate, hprevious, -⟩ := hm.told
    refine ⟨h.walk.concat ⟨?_, t, ?_, ht.possible, ht.action.symm, ?_⟩, ?_, ?_⟩
    · rw [hprevious, hfrom, h.state]
    · rwa [hprevious, hfrom]
    · rw [← h.walk.backTo_cameFrom hT, ← h.previous]
      exact ht.next
    · rw [reachedBy_concat, hstate]
    · rw [cameFrom_concat, hprevious]

/-- **The events of a visit form a walk.** -/
lemma Reached.walking (hT : T.LeadsInside) (h : Reached T v) : Walking T v :=
  h.induct (fun _ _ _ _ => ⟨T.walk_nil, rfl, rfl⟩) fun _ _ h he => he.walking hT h

end Visit

end ShopTraffic
