import ShopTraffic.Proofs.Flow.Items
import ShopTraffic.Proofs.Simulation.Parts

/-!
Steps of one simulation, cut up as finely as they can overlap. A step looks the visitor's session
up; moves it on and makes the event, with nothing in between; sends the event, and may have to wait
for that; and does what is left to do then. Between any two of these other steps go on, events are
taken out of the queue, sessions are swept and looked up.

The events are numbered in the order in which they are made. It is written down which of them were
on their way when an event was made, and in which order they entered the queue.
-/

namespace ShopTraffic

open ShopTraffic.Random

inductive Stage
  | found (user : String) (handle : Nat) (now : Time)
  /-- The visitor has left before, and the session is still to be removed. -/
  | leaving (user session : String)
  | sending (number : Nat) (step : Pending) (waits : Bool)
  /-- The queue has taken the event or refused it. -/
  | sent (step : Pending) (taken : Bool)
  | ended

def Stage.number? : Stage → Option Nat
  | sending n _ _ => some n
  | found _ _ _ | leaving _ _ | sent _ _ | ended => none

/-- An event, and the numbers of those that were on their way when it was made. -/
structure Made where
  event : Event
  unsent : List Nat
  deriving Inhabited

/-- Where a visit goes on from: one that is nowhere enters at the start. -/
def State.entered (s : State) : State := if s = .outside then .start else s

/-- Every visitor is where the visitor was, or has only entered. -/
def Registry.Stays (r r' : Registry) : Prop :=
  ∀ n < r.created.size, (r'.session n).state.entered = (r.session n).state.entered

/-- The registry has created the session for the visitor, and may have removed it since. -/
def Registry.Knows (r : Registry) (user session : String) : Prop :=
  ∃ n < r.created.size, (r.session n).id = session ∧ (r.session n).user = user

/-- The session of a step is one that the registry knows. -/
def Stage.Known (r : Registry) : Stage → Prop
  | found user n _ => n < r.created.size ∧ (r.session n).user = user
  | leaving user session => r.Knows user session
  | sending _ p _ | sent p _ => r.Knows p.user p.event.session
  | ended => True

/-- A simulation with the steps that were begun in it, and what has become of their events. -/
structure Weave where
  sim : Simulation
  steps : List Stage := []
  made : List Made := []
  /-- The numbers of the events that the queue has taken, in the order in which it took them. -/
  entered : List Nat := []
  /-- What was taken out of the queue. -/
  taken : List Event := []

/-- A sender offers an item, or goes on to wait; the answer says whether the queue has taken it. -/
def Queue.offer {α : Type} (q : Queue α) (a : α) (waits : Bool) : Queue α × Option Bool :=
  if q.closed then (if waits then q.abandon else q, some false)
  else if waits then
    if q.granted > 0 then (q.deliver a, some true) else (q, none)
  else if q.hasRoom then (q.push a, some true)
  else (q.wait, none)

namespace Weave

inductive Move
  | begin (now : Time)
  /-- The step with this place among all that were begun does the next thing that it has to do. -/
  | go (place : Nat)
  | receive
  | close
  | sweep (now : Time)
  | lookUp (user : String) (now : Time)
  | grow (least : Nat)
  /-- From here on other numbers are drawn. -/
  | reseed (users engine payloads : Source)

def unsent (w : Weave) : List Nat := w.steps.filterMap Stage.number?

def setStage (w : Weave) (place : Nat) (s : Stage) : Weave :=
  { w with steps := w.steps.set place s }

def go (w : Weave) (place : Nat) : Stage → Weave
  | .found user handle now =>
    match w.sim.advance handle now with
    | (sim, none) =>
      let s := sim.registry.session handle
      { w with sim }.setStage place (if s.state.isTerminal then .leaving user s.id else .ended)
    | (sim, some event) =>
      { w with
        sim := sim.countMove event, made := w.made ++ [Made.mk event w.unsent] }.setStage place
          (.sending w.made.length ⟨user, event⟩ false)
  | .leaving user session => { w with sim := w.sim.drop user session }.setStage place .ended
  | .sending number p waits =>
    match w.sim.output.offer p.event waits with
    | (output, none) =>
      { w with sim := { w.sim with output } }.setStage place (.sending number p true)
    | (output, some taken) =>
      { w with
        sim := { w.sim with output }
        entered := if taken then w.entered ++ [number] else w.entered }.setStage place
          (.sent p taken)
  | .sent p taken => { w with sim := (w.sim.finish p taken).1 }.setStage place .ended
  | .ended => w

def perform (w : Weave) : Move → Weave
  | .begin now =>
    match w.sim.drawVisitor with
    | (sim, none) => { w with sim }
    | (sim, some user) =>
      let (sim, handle) := sim.obtain user now
      { w with sim, steps := w.steps ++ [.found user handle now] }
  | .go place =>
    match w.steps[place]? with
    | none => w
    | some s => w.go place s
  | .receive =>
    match w.sim.output.pop with
    | none => w
    | some (e, output) => { w with sim := { w.sim with output }, taken := w.taken ++ [e] }
  | .close => { w with sim := { w.sim with output := w.sim.output.close } }
  | .sweep now => { w with sim := (w.sim.sweep now).1 }
  | .lookUp user now => { w with sim := (w.sim.obtain user now).1 }
  | .grow least => { w with sim := (w.sim.ensureVisitors least).1 }
  | .reseed users engine payloads =>
    { w with sim := { w.sim with
        userSource := users, engineSource := engine, payloadSource := payloads } }

def run (w : Weave) (moves : List Move) : Weave := moves.foldl perform w

@[simp] lemma run_nil (w : Weave) : w.run [] = w := rfl

@[simp] lemma run_cons (w : Weave) (m : Move) (moves : List Move) :
    w.run (m :: moves) = (w.perform m).run moves := rfl

def start (table : Table) (ttl : Time) (capacity : Nat) (visitors : Visitors)
    (users engine payloads : Source) : Weave where
  sim :=
    { table, visitors, registry := { ttl }, userSource := users
      engineSource := engine, payloadSource := payloads, output := { capacity } }

variable {w : Weave} {place n : Nat} {p : Pending} {user : String} {now : Time} {s : Stage}

/-! ### What a step does next -/

lemma perform_go (h : w.steps[place]? = some s) : w.perform (.go place) = w.go place s := by
  simp only [perform, h]

/-- The step that has just gone on goes on. -/
lemma perform_go_again {w' : Weave} {s' : Stage} (h : w.steps[place]? = some s)
    (hw : w'.steps = w.steps) :
    (w'.setStage place s').perform (.go place) = (w'.setStage place s').go place s' := by
  refine perform_go (List.getElem?_set_self ?_)
  rw [hw]
  exact (List.getElem?_eq_some_iff.mp h).1

lemma perform_go_none (h : w.steps[place]? = none) : w.perform (.go place) = w := by
  simp only [perform, h]

lemma perform_begin_none {sim : Simulation} (h : w.sim.drawVisitor = (sim, none)) :
    w.perform (.begin now) = { w with sim } := by
  simp only [perform, h]

lemma perform_begin {sim : Simulation} (h : w.sim.drawVisitor = (sim, some user)) (now : Time) :
    w.perform (.begin now) =
      { w with
        sim := (sim.obtain user now).1
        steps := w.steps ++ [.found user (sim.obtain user now).2 now] } := by
  simp only [perform, h]

lemma begun {w₁ : Weave} {sim : Simulation}
    (h : w₁ = { w with sim, steps := w.steps ++ [.found user n now] }) :
    w₁.sim = sim ∧ w₁.steps[w.steps.length]? = some (.found user n now) := by
  subst h
  exact ⟨rfl, List.getElem?_concat_length⟩

lemma go_stuck {sim : Simulation} (h : w.sim.advance n now = (sim, none)) :
    w.go place (.found user n now) =
      { w with sim }.setStage place
        (if (sim.registry.session n).state.isTerminal then
          .leaving user (sim.registry.session n).id else .ended) := by
  simp only [go, h]

lemma go_moved {sim : Simulation} {e : Event} (h : w.sim.advance n now = (sim, some e)) :
    w.go place (.found user n now) =
      { w with sim := sim.countMove e, made := w.made ++ [Made.mk e w.unsent] }.setStage place
        (.sending w.made.length ⟨user, e⟩ false) := by
  simp only [go, h]

lemma go_blocked {q : Queue Event} {waits : Bool}
    (h : w.sim.output.offer p.event waits = (q, none)) :
    w.go place (.sending n p waits) =
      { w with sim := { w.sim with output := q } }.setStage place (.sending n p true) := by
  simp only [go, h]

lemma go_offered {q : Queue Event} {waits taken : Bool}
    (h : w.sim.output.offer p.event waits = (q, some taken)) :
    w.go place (.sending n p waits) =
      { w with
        sim := { w.sim with output := q }
        entered := if taken then w.entered ++ [n] else w.entered }.setStage place
          (.sent p taken) := by
  simp only [go, h]

/-! ### The parts of a step are made of these moves -/

/-- **A step that begins** does two things, and a third if it finds that the visitor has left. -/
lemma run_begin (w : Weave) (now : Time) :
    (∀ sim o, w.sim.begin now = (sim, .inl o) →
      (w.run [.begin now, .go w.steps.length, .go w.steps.length]).sim = sim) ∧
    (∀ sim p, w.sim.begin now = (sim, .inr p) →
      w.run [.begin now, .go w.steps.length] =
        { w with
          sim, steps := w.steps ++ [.sending w.made.length p false]
          made := w.made ++ [⟨p.event, w.unsent⟩] }) := by
  simp only [run_cons, run_nil]
  rcases w.sim.begin_cases now with ⟨hd, hb⟩ | ⟨user, hd, ⟨sim₂, ha, hb⟩ | ⟨sim₂, e, ha, hb⟩⟩
  · refine ⟨fun sim o h => ?_, fun sim p h => ?_⟩ <;> rw [hb] at h <;> cases h
    have hnone : ({ w with sim := w.sim.drawVisitor.1 } : Weave).steps[w.steps.length]? = none :=
      List.getElem?_eq_none (Nat.le_refl _)
    rw [perform_begin_none (Prod.ext rfl hd), perform_go_none hnone, perform_go_none hnone]
  · have hbegin := perform_begin (Prod.ext rfl hd) now
    generalize w.perform (.begin now) = w₁ at hbegin ⊢
    obtain ⟨hsim, hnew⟩ := begun hbegin
    rw [← hsim] at ha
    refine ⟨fun sim o h => ?_, fun sim p h => ?_⟩ <;> rw [hb] at h <;> cases h
    rw [perform_go hnew, go_stuck ha, perform_go_again hnew, Simulation.retire]
    · split <;> rfl
    · rfl
  · have hbegin := perform_begin (Prod.ext rfl hd) now
    generalize w.perform (.begin now) = w₁ at hbegin ⊢
    obtain ⟨hsim, hnew⟩ := begun hbegin
    rw [← hsim] at ha
    refine ⟨fun sim o h => ?_, fun sim p h => ?_⟩ <;> rw [hb] at h <;> cases h
    rw [perform_go hnew, go_moved ha, hbegin, setStage, List.set_append_right _ _ (Nat.le_refl _)]
    simp [unsent, Stage.number?]

lemma send_eq (sim : Simulation) (p : Pending) :
    sim.send p =
      match sim.output.offer p.event false with
      | (output, none) => ({ sim with output }, .blocked)
      | (output, some taken) =>
        let ended := { sim with output }.finish p taken
        (ended.1, .finished ended.2) := by
  unfold Simulation.send Queue.offer
  split_ifs <;> first | rfl | contradiction

lemma resume?_eq (sim : Simulation) (p : Pending) :
    sim.resume? p =
      match sim.output.offer p.event true with
      | (_, none) => none
      | (output, some taken) => some ({ sim with output }.finish p taken) := by
  unfold Simulation.resume? Queue.offer
  split_ifs <;> first | rfl | contradiction

lemma run_offered {output : Queue Event} {waits taken : Bool}
    (h : w.steps[place]? = some (.sending n p waits))
    (ho : w.sim.output.offer p.event waits = (output, some taken)) :
    (w.run [.go place, .go place]).sim = ({ w.sim with output }.finish p taken).1 := by
  rw [run_cons, run_cons, run_nil, perform_go h, go_offered ho, perform_go_again h]
  · rfl
  · rfl

/-- **A step that sends** makes its offer, and then does what is left to do. -/
lemma run_send (h : w.steps[place]? = some (.sending n p false)) :
    (∀ sim o, w.sim.send p = (sim, .finished o) →
      (w.run [.go place, .go place]).sim = sim) ∧
    (∀ sim, w.sim.send p = (sim, .blocked) →
      w.run [.go place] = { w with sim }.setStage place (.sending n p true)) := by
  rw [send_eq]
  rcases ho : w.sim.output.offer p.event false with ⟨output, _ | taken⟩
  · refine ⟨fun sim o hs => ?_, fun sim hs => ?_⟩ <;> cases hs
    rw [run_cons, run_nil, perform_go h, go_blocked ho]
  · refine ⟨fun sim o hs => ?_, fun sim hs => ?_⟩ <;> cases hs
    exact run_offered h ho

/-- **A step that has waited** makes its offer again. -/
lemma run_resume (h : w.steps[place]? = some (.sending n p true)) {sim : Simulation} {o : Outcome}
    (hs : w.sim.resume? p = some (sim, o)) : (w.run [.go place, .go place]).sim = sim := by
  rw [resume?_eq] at hs
  rcases ho : w.sim.output.offer p.event true with ⟨output, _ | taken⟩ <;> rw [ho] at hs
  · cases hs
  · rw [run_offered h ho]
    exact congrArg Prod.fst (Option.some.inj hs)

/-! ### What one move does -/

/-- What is registered, what is queued, and the behaviour model are the same. -/
structure Beside (sim sim' : Simulation) : Prop where
  registry : sim'.registry = sim.registry
  output : sim'.output = sim.output
  table : sim'.table = sim.table

/-- What a move can do: something beside the registry and the queue, or the one thing that it is
there for. -/
inductive Effect (w : Weave) : Move → Weave → Prop
  | aside (m : Move) (sim : Simulation) (h : Beside w.sim sim) : Effect w m { w with sim }
  | find (user : String) (now : Time) (sim : Simulation) (h : w.sim.Undisturbed sim)
      (hr : sim.registry = (w.sim.registry.obtain user now).1) :
      Effect w (.begin now)
        { w with sim, steps := w.steps ++ [.found user (w.sim.registry.obtain user now).2.1 now] }
  | lookUp (user : String) (now : Time) (sim : Simulation) (h : w.sim.Undisturbed sim)
      (hr : sim.registry = (w.sim.registry.obtain user now).1) :
      Effect w (.lookUp user now) { w with sim }
  | sweep (now : Time) (sim : Simulation) (h : w.sim.Undisturbed sim)
      (hr : sim.registry = (w.sim.registry.sweep now).1) : Effect w (.sweep now) { w with sim }
  | receive (e : Event) (output : Queue Event) (h : w.sim.output.pop = some (e, output)) :
      Effect w .receive { w with sim := { w.sim with output }, taken := w.taken ++ [e] }
  | close : Effect w .close { w with sim := { w.sim with output := w.sim.output.close } }
  | stuck (place : Nat) (user : String) (n : Nat) (now : Time) (sim : Simulation) (s : Stage)
      (h : w.steps[place]? = some (.found user n now)) (ha : w.sim.advance n now = (sim, none))
      (hs : s = .ended ∨ s = .leaving user (sim.registry.session n).id ∧
        (sim.registry.session n).state = .exit) :
      Effect w (.go place) ({ w with sim }.setStage place s)
  | move (place : Nat) (user : String) (n : Nat) (now : Time) (sim : Simulation) (e : Event)
      (h : w.steps[place]? = some (.found user n now)) (ha : w.sim.advance n now = (sim, some e)) :
      Effect w (.go place) ({ w with
        sim := sim.countMove e, made := w.made ++ [Made.mk e w.unsent] }.setStage place
          (.sending w.made.length ⟨user, e⟩ false))
  | leave (place : Nat) (user session : String)
      (h : w.steps[place]? = some (.leaving user session)) :
      Effect w (.go place) ({ w with sim := w.sim.drop user session }.setStage place .ended)
  | wait (place n : Nat) (p : Pending) (waits : Bool) (output : Queue Event)
      (h : w.steps[place]? = some (.sending n p waits))
      (hi : output.items = w.sim.output.items) (hc : output.closed = w.sim.output.closed) :
      Effect w (.go place)
        ({ w with sim := { w.sim with output } }.setStage place (.sending n p true))
  | offer (place n : Nat) (p : Pending) (waits taken : Bool) (output : Queue Event)
      (h : w.steps[place]? = some (.sending n p waits))
      (hi : output.items = if taken then w.sim.output.items ++ [p.event] else w.sim.output.items)
      (hc : output.closed = w.sim.output.closed) (ht : w.sim.output.closed = !taken) :
      Effect w (.go place) ({ w with
        sim := { w.sim with output }
        entered := if taken then w.entered ++ [n] else w.entered }.setStage place
          (.sent p taken))
  | finish (place : Nat) (p : Pending) (taken : Bool) (h : w.steps[place]? = some (.sent p taken)) :
      Effect w (.go place) ({ w with sim := (w.sim.finish p taken).1 }.setStage place .ended)

lemma offer_none {α : Type} {q q' : Queue α} {a : α} {waits : Bool}
    (h : q.offer a waits = (q', none)) : q'.items = q.items ∧ q'.closed = q.closed := by
  unfold Queue.offer at h
  split_ifs at h <;> cases h <;> exact ⟨rfl, rfl⟩

lemma offer_some {α : Type} {q q' : Queue α} {a : α} {waits taken : Bool}
    (h : q.offer a waits = (q', some taken)) :
    q'.items = (if taken then q.items ++ [a] else q.items) ∧ q'.closed = q.closed ∧
      q.closed = !taken := by
  unfold Queue.offer at h
  split_ifs at h with hc <;> cases h
  · exact ⟨q.items_abandon, q.abandon_closed, hc⟩
  · exact ⟨rfl, rfl, hc⟩
  · exact ⟨q.items_deliver a, rfl, by simpa using hc⟩
  · exact ⟨q.items_push a, rfl, by simpa using hc⟩

lemma go_effect (h : w.steps[place]? = some s) : w.Effect (.go place) (w.go place s) := by
  cases s with
  | found user n now =>
    rcases ha : w.sim.advance n now with ⟨sim, _ | e⟩
    · rw [go_stuck ha]
      refine .stuck place user n now sim _ h ha ?_
      split
      · next hx => exact .inr ⟨rfl, of_decide_eq_true hx⟩
      · exact .inl rfl
    · rw [go_moved ha]
      exact .move place user n now sim e h ha
  | leaving user session => exact .leave place user session h
  | sending n p waits =>
    rcases ho : w.sim.output.offer p.event waits with ⟨output, _ | taken⟩
    · rw [go_blocked ho]
      exact .wait place n p waits output h (offer_none ho).1 (offer_none ho).2
    · rw [go_offered ho]
      obtain ⟨hi, hc, ht⟩ := offer_some ho
      exact .offer place n p waits taken output h hi hc ht
  | sent p taken => exact .finish place p taken h
  | ended => exact .aside _ _ ⟨rfl, rfl, rfl⟩

/-- **What a move does.** -/
lemma perform_effect (w : Weave) (m : Move) : w.Effect m (w.perform m) := by
  cases m with
  | begin now =>
    rcases hd : w.sim.drawVisitor with ⟨sim, _ | user⟩
    · obtain rfl : w.sim.drawVisitor.1 = sim := congrArg Prod.fst hd
      rw [perform_begin_none hd]
      exact .aside _ _ ⟨rfl, rfl, rfl⟩
    · obtain rfl : w.sim.drawVisitor.1 = sim := congrArg Prod.fst hd
      rw [perform_begin hd, Simulation.obtain_handle]
      exact .find user now _
        ((w.sim.drawVisitor_undisturbed).trans (Simulation.obtain_undisturbed _ user now))
        (Simulation.obtain_registry _ user now)
  | go place =>
    rcases h : w.steps[place]? with _ | s
    · rw [perform_go_none h]
      exact .aside _ _ ⟨rfl, rfl, rfl⟩
    · rw [perform_go h]
      exact go_effect h
  | receive =>
    rcases h : w.sim.output.pop with _ | ⟨e, output⟩ <;> simp only [perform, h]
    · exact .aside _ _ ⟨rfl, rfl, rfl⟩
    · exact .receive e output h
  | close => exact .close
  | sweep now => exact .sweep now _ (w.sim.sweep_undisturbed now) (w.sim.sweep_registry now)
  | lookUp user now =>
    exact .lookUp user now _ (w.sim.obtain_undisturbed user now) (w.sim.obtain_registry user now)
  | grow least =>
    have h := w.sim.ensureVisitors_undisturbed least
    exact .aside _ _ ⟨w.sim.ensureVisitors_registry least, h.output, h.table⟩
  | reseed => exact .aside _ _ ⟨rfl, rfl, rfl⟩

lemma Effect.table {w' : Weave} {m : Move} (he : w.Effect m w') : w'.sim.table = w.sim.table := by
  cases he with
  | aside m sim hb => exact hb.table
  | find user now sim hu => exact hu.table
  | lookUp user now sim hu => exact hu.table
  | sweep now sim hu => exact hu.table
  | receive | close | leave | wait | offer => rfl
  | stuck place user n now sim s hp ha => exact (Simulation.advance_none ha).1.table
  | move place user n now sim e hp ha =>
    exact (sim.countMove_undisturbed e).1.table.trans (Simulation.advance_some ha).1.table
  | finish place p taken => exact w.sim.finish_table p taken

/-! ### What the steps know -/

lemma entered_entered (s : State) : s.entered.entered = s.entered := by
  cases s <;> rfl

/-- The registry is sound, and knows the sessions of all steps. -/
structure Sane (w : Weave) : Prop where
  sound : w.sim.registry.Sound
  known : ∀ s ∈ w.steps, s.Known w.sim.registry

lemma knows_mono {r r' : Registry} {user session : String}
    (h : r.Knows user session) (hg : r.Grows r') : r'.Knows user session := by
  obtain ⟨n, hn, hi, hu⟩ := h
  exact ⟨n, Nat.lt_of_lt_of_le hn hg.size, (hg.id n hn).trans hi, (hg.user n hn).trans hu⟩

lemma stays_of_rests {r r' : Registry} (h : r.Rests r') : r.Stays r' :=
  fun n hn => congrArg State.entered (h n hn)

lemma known_mono {r r' : Registry} (h : s.Known r) (hg : r.Grows r') : s.Known r' := by
  cases s with
  | found user n now => exact ⟨Nat.lt_of_lt_of_le h.1 hg.size, (hg.user n h.1).trans h.2⟩
  | leaving | sending | sent => exact knows_mono h hg
  | ended => exact trivial

/-- What a move does to the registry: no visitor moves on unless an event is made. -/
structure Goes (w w' : Weave) : Prop where
  sound : w'.sim.registry.Sound
  grows : w.sim.registry.Grows w'.sim.registry
  stays : w'.made = w.made → w.sim.registry.Stays w'.sim.registry
  known : ∀ s ∈ w'.steps, s ∈ w.steps ∨ s.Known w'.sim.registry

lemma Sane.goes {w' : Weave} (h : w.Sane) (hg : w.Goes w') : w'.Sane where
  sound := hg.sound
  known s hs := (hg.known s hs).elim (fun hs => known_mono (h.known s hs) hg.grows) id

/-- Only what a step knows may have changed. -/
lemma Sane.stay {w' : Weave} (h : w.Sane) (hr : w'.sim.registry = w.sim.registry)
    (hk : ∀ s ∈ w'.steps, s ∈ w.steps ∨ s.Known w.sim.registry) : w.Goes w' :=
  ⟨by rw [hr]; exact h.sound, by rw [hr]; exact Registry.grows_refl _,
    fun _ _ _ => by rw [hr], by rwa [hr]⟩

lemma mem_setStage {w' : Weave} {s' : Stage} (hw : w'.steps = w.steps)
    (h : s' ∈ (w'.setStage place s).steps) : s' ∈ w.steps ∨ s' = s := by
  rw [← hw]
  exact List.mem_or_eq_of_mem_set h

/-- A step deletes only what it knows. -/
lemma Sane.deleted {w' : Weave} {user session : String} (h : w.Sane)
    (hk : w.sim.registry.Knows user session)
    (hr : w'.sim.registry = (w.sim.registry.delete user session).1)
    (hs : ∀ s ∈ w'.steps, s ∈ w.steps ∨ s = .ended) : w.Goes w' := by
  obtain ⟨m, hm, rfl, rfl⟩ := hk
  obtain ⟨hg, hrests⟩ := w.sim.registry.delete_grows (w.sim.registry.session m).user
    (w.sim.registry.session m).id
  rw [← hr] at hg hrests
  refine ⟨?_, hg, fun _ => stays_of_rests hrests, fun s hs' => (hs s hs').imp_right fun e => ?_⟩
  · rw [hr]
    exact h.sound.delete (h.sound.allowed_delete hm)
  · rw [e]
    exact trivial

/-- A session is written, and the step that has written it goes on with it. -/
lemma Sane.written {w' : Weave} (h : w.Sane) (s' : Session)
    (hf : (Stage.found user n now).Known w.sim.registry)
    (hi : s'.id = (w.sim.registry.session n).id) (hu : s'.user = (w.sim.registry.session n).user)
    (hr : w'.sim.registry = w.sim.registry.update n fun _ => s')
    (hst : w'.made = w.made → s'.state.entered = (w.sim.registry.session n).state.entered)
    (hs : ∀ s ∈ w'.steps, s ∈ w.steps ∨
      (w'.sim.registry.Knows user s'.id → s.Known w'.sim.registry)) : w.Goes w' := by
  have hallowed : w.sim.registry.Allowed (.write n fun _ => s') := ⟨hi, hu⟩
  have hknows : w'.sim.registry.Knows user s'.id := by
    rw [hr]
    refine ⟨n, by rw [Registry.update_size]; exact hf.1, ?_, ?_⟩ <;>
      rw [Registry.session_update_self hf.1]
    exact hu.trans hf.2
  refine ⟨?_, ?_, fun hm k _ => ?_, fun s hs' => (hs s hs').imp_right fun hk => hk hknows⟩
  · rw [hr]
    exact h.sound.update hallowed
  · rw [hr]
    exact Registry.update_grows hallowed
  · rw [hr]
    exact Registry.session_update_of_kept (fun s => s.state.entered) (hst hm) k

lemma Sane.perform_goes (h : w.Sane) (m : Move) : w.Goes (w.perform m) := by
  have he := w.perform_effect m
  generalize w.perform m = w' at he ⊢
  cases he with
  | aside m sim hb => exact h.stay hb.registry fun s hs => .inl hs
  | find user now sim _ hr =>
    have ho := h.sound.obtained user now
    refine ⟨?_, ?_, fun _ => stays_of_rests ?_, fun s hs => ?_⟩
    · exact hr ▸ h.sound.obtain user now
    · exact hr ▸ ho.grows
    · exact hr ▸ ho.rests
    · rcases List.mem_append.mp hs with hs | hs
      · exact .inl hs
      · rw [List.mem_singleton.mp hs]
        exact .inr (hr ▸ ⟨ho.handle, ho.user⟩)
  | lookUp user now sim _ hr =>
    have ho := h.sound.obtained user now
    exact ⟨hr ▸ h.sound.obtain user now, hr ▸ ho.grows, fun _ => stays_of_rests (hr ▸ ho.rests),
      fun s hs => .inl hs⟩
  | sweep now sim _ hr =>
    obtain ⟨hg, hrests⟩ := w.sim.registry.sweep_grows now
    exact ⟨hr ▸ h.sound.sweep now, hr ▸ hg, fun _ => stays_of_rests (hr ▸ hrests),
      fun s hs => .inl hs⟩
  | receive | close => exact h.stay rfl fun s hs => .inl hs
  | stuck place user n now sim s hp ha hs =>
    have hf := h.known _ (List.mem_of_getElem? hp)
    have hr := (Simulation.advance_none ha).2.2
    have hid : (sim.registry.session n).id = (w.sim.registry.session n).enter.id := by
      rw [hr, Registry.session_update_self hf.1]
    refine h.written (w.sim.registry.session n).enter hf rfl rfl hr
      (fun _ => entered_entered _) fun s' hs' => ?_
    rcases mem_setStage rfl hs' with hs' | rfl
    · exact .inl hs'
    · refine .inr fun hk => ?_
      rcases hs with rfl | ⟨rfl, -⟩
      · exact trivial
      · rw [← hid] at hk
        exact hk
  | move place user n now sim e hp ha =>
    have hf := h.known _ (List.mem_of_getElem? hp)
    obtain ⟨-, -, s', hm, hr⟩ := Simulation.advance_some ha
    refine h.written s' hf hm.id hm.user hr
      (fun h => absurd (congrArg List.length h) (by simp [setStage])) fun s hs => ?_
    rcases mem_setStage rfl hs with hs | rfl
    · exact .inl hs
    · exact .inr fun hk => by rw [← hm.told.2.1] at hk; exact hk
  | leave place user session hp =>
    exact h.deleted (h.known _ (List.mem_of_getElem? hp)) rfl fun s hs => mem_setStage rfl hs
  | wait place n p waits output hp =>
    have hk := h.known _ (List.mem_of_getElem? hp)
    refine h.stay rfl fun s hs => (mem_setStage rfl hs).imp_right fun e => ?_
    rw [e]
    exact hk
  | offer place n p waits taken output hp =>
    have hk := h.known _ (List.mem_of_getElem? hp)
    refine h.stay rfl fun s hs => (mem_setStage rfl hs).imp_right fun e => ?_
    rw [e]
    exact hk
  | finish place p taken hp =>
    have hr := w.sim.finish_registry p taken
    split at hr
    · exact h.deleted (h.known _ (List.mem_of_getElem? hp)) hr fun s hs => mem_setStage rfl hs
    · refine h.stay hr fun s hs => (mem_setStage rfl hs).imp_right fun e => ?_
      rw [e]
      exact trivial

lemma Sane.perform (h : w.Sane) (m : Move) : (w.perform m).Sane := h.goes (h.perform_goes m)

lemma Sane.run (h : w.Sane) (moves : List Move) : (w.run moves).Sane := by
  induction moves generalizing w with
  | nil => exact h
  | cons m moves ih => exact ih (h.perform m)

lemma start_sane (table : Table) (ttl : Time) (capacity : Nat) (visitors : Visitors)
    (users engine payloads : Source) :
    (start table ttl capacity visitors users engine payloads).Sane :=
  ⟨Registry.sound_empty ttl, fun _ hs => absurd hs List.not_mem_nil⟩

end Weave

end ShopTraffic
