import Mathlib.Data.List.Perm.Basic
import Mathlib.Tactic.Common
import ShopTraffic.Proofs.Flow.Items
import ShopTraffic.Proofs.Flow.Outlets
import ShopTraffic.Proofs.Metrics.Tallies
import ShopTraffic.Proofs.Runs
import ShopTraffic.Proofs.Simulation.Weave

/-!
Sink workers that share one receiver, cut up as finely as they can overlap. A worker waits for the
receiver; holding it, it looks whether it is to end, and if not, whether there is an event, again
and again. With an event it lets go of the receiver, gives the event to the sink, and waits for the
answer. Senders go on meanwhile, and cancelling comes at any moment.

It is written down what was sent, and which worker took which event, gave it to the sink and was
answered for it. What was sent and what was given to the sink can also be told without these logs,
from the moves alone: an offer says whether the event was taken, and whoever gives an event to the
sink fixes the answer.
-/

namespace ShopTraffic

structure Handed where
  worker : Nat
  event : Event

structure Answered extends Handed where
  result : Except SinkError Unit

namespace Answered

def isAccepted (a : Answered) : Bool := a.result.isOk

/-- The sink has refused the event, with an error of this kind. -/
def isRefused (kind : String) (a : Answered) : Bool :=
  match a.result with
  | .ok () => false
  | .error reason => reason.kind = kind

@[simp] lemma isAccepted_ok (h : Handed) : isAccepted ⟨h, .ok ()⟩ = true := rfl

@[simp] lemma isAccepted_error (h : Handed) (reason : SinkError) :
    isAccepted ⟨h, .error reason⟩ = false := rfl

@[simp] lemma isRefused_ok (kind : String) (h : Handed) : isRefused kind ⟨h, .ok ()⟩ = false := rfl

@[simp] lemma isRefused_error (kind : String) (h : Handed) (reason : SinkError) :
    isRefused kind ⟨h, .error reason⟩ = decide (reason.kind = kind) := rfl

end Answered

/-- The events that were in the hands of one worker, the oldest first. -/
def byWorker (k : Nat) (hs : List Handed) : List Event :=
  (hs.filter (·.worker = k)).map (·.event)

/-- What one worker was answered for, and how. -/
def repliesTo (k : Nat) (as : List Answered) : List (Event × Except SinkError Unit) :=
  (as.filter (·.worker = k)).map fun a => (a.event, a.result)

lemma repliesTo_concat (k : Nat) (as : List Answered) (a : Answered) :
    repliesTo k (as ++ [a]) =
      repliesTo k as ++ if a.worker = k then [(a.event, a.result)] else [] := by
  by_cases hk : a.worker = k <;> simp [repliesTo, hk]

lemma byWorker_concat (k : Nat) (hs : List Handed) (h : Handed) :
    byWorker k (hs ++ [h]) = byWorker k hs ++ if h.worker = k then [h.event] else [] := by
  by_cases hk : h.worker = k <;> simp [byWorker, hk]

namespace Outlet

def isWhole : Outlet → Bool
  | idle | publishing _ _ | ended => true
  | failed _ | aborted _ => false

def carried : Outlet → List Event
  | publishing e none => [e]
  | _ => []

/-- The event for which a worker waits to be answered. -/
def given : Outlet → List Event
  | publishing e (some _) => [e]
  | _ => []

def awaited : Outlet → List (Event × Except SinkError Unit)
  | publishing e (some (_, result)) => [(e, result)]
  | _ => []

/-- The most that a worker still has to do before it looks for another event or ends. -/
def toGo : Outlet → Nat
  | publishing _ none => 3
  | publishing _ (some _) => 2
  | idle => 1
  | ended | failed _ | aborted _ => 0

end Outlet

/-- Sink workers with the queue from which they take. -/
structure Relay where
  outlets : Outlets
  sim : Simulation
  /-- The worker that holds the receiver, and whether it has just seen that it is not to end. -/
  holder : Option (Nat × Bool) := none
  sent : List Event := []
  taken : List Handed := []
  passed : List Handed := []
  answered : List Answered := []

namespace Relay

inductive Move
  /-- A worker that waits for the receiver gets it. -/
  | acquire (worker : Nat)
  /-- The worker that holds the receiver looks whether it is to end. -/
  | look (worker : Nat)
  /-- The worker that holds the receiver looks whether there is an event. -/
  | receive (worker : Nat)
  /-- A worker gives its event to the sink, which will answer this. -/
  | publish (worker : Nat) (due : Instant) (result : Except SinkError Unit)
  | answer (worker : Nat)
  | cancel
  | offer (event : Event) (waits : Bool)
  /-- There are no senders any more. -/
  | close

def Move.isOwn : Move → Bool
  | acquire _ | look _ | receive _ | publish _ _ _ | answer _ => true
  | cancel | offer _ _ | close => false

def finish (r : Relay) (k : Nat) : Relay :=
  { r with
    outlets := r.outlets.setWorker k .ended
    sim := r.sim.note (.sinkEnded k ((r.outlets.published[k]?).getD 0))
    holder := none }

def perform (r : Relay) : Move → Relay
  | .acquire k =>
    match r.outlets.worker k, r.holder with
    | .idle, none => { r with holder := some (k, false) }
    | _, _ => r
  | .look k =>
    if r.holder = some (k, false) then
      if r.outlets.cancelled then r.finish k else { r with holder := some (k, true) }
    else r
  | .receive k =>
    if r.holder = some (k, true) then
      match r.sim.output.pop with
      | some (e, output) =>
        { r with
          outlets := r.outlets.setWorker k (.publishing e none)
          sim := { r.sim with output }
          holder := none
          taken := r.taken ++ [⟨k, e⟩] }
      | none =>
        if r.sim.output.closed then r.finish k else { r with holder := some (k, false) }
    else r
  | .publish k due result =>
    match r.outlets.worker k with
    | .publishing e none =>
      { r with
        outlets := r.outlets.setWorker k (.publishing e (some (due, result)))
        sim := { r.sim with notices := r.outlets.sink.notices e ++ r.sim.notices }
        passed := r.passed ++ [⟨k, e⟩] }
    | _ => r
  | .answer k =>
    match r.outlets.worker k with
    | .publishing e (some (_, result)) =>
      let (outlets, sim) := r.outlets.onAnswer r.sim k e result
      { r with outlets, sim, answered := r.answered ++ [⟨⟨k, e⟩, result⟩] }
    | _ => r
  | .cancel => { r with outlets := r.outlets.cancel }
  | .offer e waits =>
    let (output, taken) := r.sim.output.offer e waits
    { r with
      sim := { r.sim with output }
      sent := if taken = some true then r.sent ++ [e] else r.sent }
  | .close => { r with sim := { r.sim with output := r.sim.output.close } }

def run (r : Relay) (moves : List Move) : Relay := moves.foldl perform r

@[simp] lemma run_nil (r : Relay) : r.run [] = r := rfl

lemma run_append (r : Relay) (moves more : List Move) :
    r.run (moves ++ more) = (r.run moves).run more := by
  simp [run, List.foldl_append]

@[simp] lemma run_cons (r : Relay) (m : Move) (moves : List Move) :
    r.run (m :: moves) = (r.perform m).run moves := rfl

/-- The event that a move brings into the queue, as its sender is told. -/
def sends (r : Relay) : Move → List Event
  | .offer e waits => if (r.sim.output.offer e waits).2 = some true then [e] else []
  | _ => []

/-- The event that a worker gives to the sink in a move, with the answer that it will get. -/
def gives (r : Relay) : Move → List Answered
  | .publish k _ result => (r.outlets.worker k).carried.map fun e => ⟨⟨k, e⟩, result⟩
  | _ => []

/-- So many workers for a sink, with an empty queue and nothing counted yet. -/
def start (sink : Sink) (count : Nat) (sim : Simulation) (capacity : Nat) : Relay where
  outlets := Outlets.start { sink } count
  sim := { sim with output := { capacity }, metrics := {} }

variable {r r' : Relay} {k j : Nat} {e : Event} {gs as : List Answered}

/-! ### Workers that are alone -/

variable {now : Instant}

/-- **Taking an event** in steps, with nothing in between, is taking it at once. -/
lemma run_take {delay : Instant} {result : Except SinkError Unit} {output : Queue Event}
    (hen : r.outlets.enabled r.sim.output now (.take k) = true)
    (hq : r.sim.output.pop = some (e, output))
    (hs : r.outlets.sink.publish e = .answers delay result) (hh : r.holder = none) :
    let r' := r.run [.acquire k, .look k, .receive k, .publish k (now + delay) result]
    (r'.outlets, r'.sim) = r.outlets.perform (.take k) r.sim now ∧ r'.holder = none := by
  have hw := Outlets.idle_of_take hen
  have hc : r.outlets.cancelled = false := by
    simp only [Outlets.enabled, hw, Bool.and_eq_true, Bool.not_eq_true'] at hen
    exact hen.1
  have hk : k < r.outlets.workers.size :=
    (Array.getElem?_eq_some_iff.mp (Outlets.getElem?_worker hw Outlet.noConfusion)).1
  have hset := Outlets.worker_setWorker_self hk (.publishing e none)
  have htwice (x y : Outlet) : (r.outlets.setWorker k x).setWorker k y =
      r.outlets.setWorker k y := by
    simp [Outlets.setWorker]
  have hsink (x : Outlet) : (r.outlets.setWorker k x).sink = r.outlets.sink := rfl
  simp [perform, hw, hh, hc, hq, hset, htwice, hsink, Outlets.perform, hen, Outlets.onTake, hs]

lemma perform_answer (hen : r.outlets.enabled r.sim.output now (.answer k) = true) :
    let r' := r.perform (.answer k)
    (r'.outlets, r'.sim) = r.outlets.perform (.answer k) r.sim now := by
  simp only [perform, Outlets.perform, hen]
  split <;> simp_all

/-- **Ending** in steps is ending at once, whether for cancelling or for want of events. -/
lemma run_finish (hen : r.outlets.enabled r.sim.output now (.finish k) = true)
    (hq : r.sim.output.Counted) (hh : r.holder = none) :
    let r' := r.run [.acquire k, .look k, .receive k]
    (r'.outlets, r'.sim) = r.outlets.perform (.finish k) r.sim now ∧ r'.holder = none := by
  have hw := Outlets.idle_of_finish hen
  by_cases hc : r.outlets.cancelled
  · simp [perform, hw, hh, hc, finish, Outlets.perform, hen]
  · have hend : r.sim.output.closed = true ∧ r.sim.output.length = 0 := by
      simpa [Outlets.enabled, hw, hc] using hen
    have hpop : r.sim.output.pop = none := by
      rcases hp : r.sim.output.pop with _ | ⟨e, q⟩
      · rfl
      · have hitems := (Queue.pop_some hp).1
        rw [Queue.Counted, hend.2, hitems] at hq
        cases hq
    simp [perform, hw, hh, hc, hpop, hend, finish, Outlets.perform, hen]

/-! ### What a move does -/

/-- What the state can be after a move in which these events are given to the sink. -/
inductive Effect (r : Relay) : List Answered → Relay → Prop
  | aside : Effect r [] r
  | acquire (k : Nat) (hw : r.outlets.worker k = .idle) :
      Effect r [] { r with holder := some (k, false) }
  /-- The worker that holds the receiver has found neither a reason to end nor an event. -/
  | look (k : Nat) (b b' : Bool) (hh : r.holder = some (k, b)) :
      Effect r [] { r with holder := some (k, b') }
  | finish (k : Nat) (b : Bool) (hh : r.holder = some (k, b))
      (hend : r.outlets.cancelled ∨ r.sim.output.closed ∧ r.sim.output.items = []) :
      Effect r [] (r.finish k)
  | take (k : Nat) (e : Event) (output : Queue Event) (hh : r.holder = some (k, true))
      (hq : r.sim.output.pop = some (e, output)) :
      Effect r [] { r with
        outlets := r.outlets.setWorker k (.publishing e none)
        sim := { r.sim with output }
        holder := none
        taken := r.taken ++ [⟨k, e⟩] }
  | give (k : Nat) (e : Event) (due : Instant) (result : Except SinkError Unit)
      (notices : List Notice) (hw : r.outlets.worker k = .publishing e none) :
      Effect r [⟨⟨k, e⟩, result⟩] { r with
        outlets := r.outlets.setWorker k (.publishing e (some (due, result)))
        sim := { r.sim with notices }
        passed := r.passed ++ [⟨k, e⟩] }
  | answer (k : Nat) (e : Event) (due : Instant) (result : Except SinkError Unit)
      (hw : r.outlets.worker k = .publishing e (some (due, result))) :
      Effect r [] { r with
        outlets := (r.outlets.onAnswer r.sim k e result).1
        sim := (r.outlets.onAnswer r.sim k e result).2
        answered := r.answered ++ [⟨⟨k, e⟩, result⟩] }
  | cancel : Effect r [] { r with outlets := r.outlets.cancel }
  /-- Events come into the queue, unless it is closed. -/
  | queue (q : Queue Event) (more : List Event) (hitems : q.items = r.sim.output.items ++ more)
      (hclosed : r.sim.output.closed → q.closed ∧ more = []) :
      Effect r [] { r with sim := { r.sim with output := q }, sent := r.sent ++ more }

lemma offer_effect (r : Relay) (e : Event) (waits : Bool) :
    Effect r [] (r.perform (.offer e waits)) := by
  rcases ho : r.sim.output.offer e waits with ⟨q, _ | _ | _⟩
  · obtain ⟨hitems, hclosed⟩ := Weave.offer_none ho
    simpa [perform, ho] using Effect.queue (r := r) q [] (by simpa using hitems)
      fun hc => ⟨hclosed.trans hc, rfl⟩
  · obtain ⟨hitems, hclosed, -⟩ := Weave.offer_some ho
    simpa [perform, ho] using Effect.queue (r := r) q [] (by simpa using hitems)
      fun hc => ⟨hclosed.trans hc, rfl⟩
  · obtain ⟨hitems, -, htaken⟩ := Weave.offer_some ho
    simpa [perform, ho] using Effect.queue (r := r) q [e] (by simpa using hitems)
      fun hc => Bool.noConfusion (htaken.symm.trans hc)

/-- **What a move does.** -/
lemma perform_effect (r : Relay) (m : Move) : Effect r (r.gives m) (r.perform m) := by
  cases m with
  | acquire k =>
    simp only [perform]
    split
    · next hw _ => exact .acquire k hw
    · exact .aside
  | look k =>
    simp only [perform]
    split_ifs with hh hc
    · exact .finish k false hh (.inl hc)
    · exact .look k false true hh
    · exact .aside
  | receive k =>
    simp only [perform]
    split
    · next hh =>
      split
      · next hq => exact .take k _ _ hh hq
      · next hq =>
        split
        · next hc => exact .finish k true hh (.inr ⟨hc, Queue.pop_none hq⟩)
        · exact .look k true false hh
    · exact .aside
  | publish k due result =>
    rcases hw : r.outlets.worker k with _ | ⟨e, _ | a⟩ | _ | _ | _ <;>
      simp only [perform, gives, hw, Outlet.carried, List.map_cons, List.map_nil]
    case publishing.none => exact .give k e due result _ hw
    all_goals exact .aside
  | answer k =>
    simp only [perform]
    split
    · next hw => exact .answer k _ _ _ hw
    · exact .aside
  | cancel => exact .cancel
  | offer e waits => exact r.offer_effect e waits
  | close =>
    simpa [perform, gives] using Effect.queue (r := r) r.sim.output.close [] (by simp)
      fun _ => ⟨rfl, rfl⟩

lemma Effect.size (h : Effect r gs r') : r'.outlets.workers.size = r.outlets.workers.size := by
  cases h with
  | aside | acquire | look | cancel | queue => rfl
  | finish | take | give => exact Outlets.size_setWorker _ _ _
  | answer k e due result hw => cases result <;> exact Outlets.size_setWorker _ _ _

lemma run_size (r : Relay) (moves : List Move) :
    (r.run moves).outlets.workers.size = r.outlets.workers.size := by
  induction moves generalizing r with
  | nil => rfl
  | cons m moves ih => exact (ih _).trans (r.perform_effect m).size

/-! ### In whose hands the events are -/

/-- Every event that was taken is in somebody's hands or was given to the sink, and every event that
was given to the sink is answered for or is being answered for. -/
structure Handing (r : Relay) : Prop where
  holder : ∀ k b, r.holder = some (k, b) → r.outlets.worker k = .idle
  queue : r.taken.map (·.event) ++ r.sim.output.items = r.sent
  carried : ∀ k, byWorker k r.taken = byWorker k r.passed ++ (r.outlets.worker k).carried
  given : ∀ k, byWorker k r.passed =
    byWorker k (r.answered.map (·.toHanded)) ++ (r.outlets.worker k).given
  ended : ∀ k < r.outlets.workers.size, r.outlets.worker k = .ended →
    r.outlets.cancelled ∨ r.sim.output.closed ∧ r.sim.output.items = []
  whole : ∀ k, (r.outlets.worker k).isWhole

/-- What was given to the sink and how it will answer is told by `gs`. Each worker was answered for
what it has given, in turn, but for one event for which it waits. -/
structure Given (r : Relay) (gs : List Answered) : Prop where
  passed : r.passed = gs.map (·.toHanded)
  awaited : ∀ k, repliesTo k gs = repliesTo k r.answered ++ (r.outlets.worker k).awaited

lemma worker_start (sink : Sink) (count k : Nat) :
    (Outlets.start { sink } count).worker k = if k < count then .idle else .ended := by
  split <;> simp_all [Outlets.start, Outlets.worker]

lemma start_handing (sink : Sink) (count : Nat) (sim : Simulation) (capacity : Nat) :
    (start sink count sim capacity).Handing := by
  constructor <;> simp only [start]
  · simp
  · rfl
  · intro k
    rw [worker_start]
    split <;> rfl
  · intro k
    rw [worker_start]
    split <;> rfl
  · intro k hk h
    have hk : k < count := by simpa [Outlets.start] using hk
    rw [worker_start, if_pos hk] at h
    cases h
  · intro k
    rw [worker_start]
    split <;> rfl

lemma start_given (sink : Sink) (count : Nat) (sim : Simulation) (capacity : Nat) :
    (start sink count sim capacity).Given [] := by
  refine ⟨rfl, fun k => ?_⟩
  simp only [start]
  rw [worker_start]
  split <;> rfl

/-- A worker has changed what it does. What its hands now hold is what they held before and what has
come in, less what has gone out. -/
lemma hands_set {α : Type} {f : Outlet → List α} {come gone : Nat → List α} {o : Outlets}
    {x y : Outlet} {a b : List α} (h : ∀ j, come j = gone j ++ f (o.worker j))
    (hw : o.worker k = x) (hx : x ≠ .ended) (hab : f x ++ a = b ++ f y) (j : Nat) :
    come j ++ (if k = j then a else []) =
      gone j ++ (if k = j then b else []) ++ f ((o.setWorker k y).worker j) := by
  rw [Outlets.worker_setWorker hw hx, h j]
  by_cases hj : k = j
  · subst hj
    simp [hw, hab]
  · simp [hj]

section Moves

variable (h : r.Handing)
include h

/-- Another worker than the one that holds the receiver goes on. -/
lemma Handing.holder_set {x : Outlet} (hw : r.outlets.worker k = x) (hx : x ≠ .idle)
    (hx' : x ≠ .ended) (y : Outlet) (j : Nat) (b : Bool) (hj : r.holder = some (j, b)) :
    (r.outlets.setWorker k y).worker j = .idle := by
  have hidle := h.holder j b hj
  rw [Outlets.worker_setWorker hw hx', if_neg]
  · exact hidle
  · rintro rfl
    exact hx (hw.symm.trans hidle)

lemma Handing.ended_set {x y : Outlet} (hw : r.outlets.worker k = x) (hx : x ≠ .ended)
    (hy : y ≠ .ended) (j : Nat) (hj : j < (r.outlets.setWorker k y).workers.size)
    (hend : (r.outlets.setWorker k y).worker j = .ended) :
    r.outlets.cancelled ∨ r.sim.output.closed ∧ r.sim.output.items = [] := by
  rw [Outlets.worker_setWorker hw hx] at hend
  split at hend
  · exact absurd hend hy
  · exact h.ended j (by simpa [Outlets.setWorker] using hj) hend

lemma Handing.whole_set {x y : Outlet} (hw : r.outlets.worker k = x) (hx : x ≠ .ended)
    (hy : y.isWhole) (j : Nat) : ((r.outlets.setWorker k y).worker j).isWhole := by
  rw [Outlets.worker_setWorker hw hx]
  split
  · exact hy
  · exact h.whole j

lemma Handing.finish (hw : r.outlets.worker k = .idle)
    (hend : r.outlets.cancelled ∨ r.sim.output.closed ∧ r.sim.output.items = []) :
    (r.finish k).Handing := by
  constructor <;> simp only [Relay.finish]
  · simp
  · exact h.queue
  · intro j
    simpa using hands_set (a := []) (b := []) (y := .ended) h.carried hw Outlet.noConfusion rfl j
  · intro j
    simpa using hands_set (a := []) (b := []) (y := .ended) h.given hw Outlet.noConfusion rfl j
  · exact fun _ _ _ => hend
  · exact h.whole_set hw Outlet.noConfusion rfl

/-- An event goes from the queue into the hands of a worker. -/
lemma Handing.takes {output : Queue Event} (hh : r.holder = some (k, true))
    (hq : r.sim.output.pop = some (e, output)) :
    Handing { r with
      outlets := r.outlets.setWorker k (.publishing e none)
      sim := { r.sim with output }
      holder := none
      taken := r.taken ++ [⟨k, e⟩] } := by
  have hw := h.holder k true hh
  obtain ⟨hitems, -, -⟩ := Queue.pop_some hq
  constructor <;> simp only
  · simp
  · rw [← h.queue, hitems]
    simp
  · intro j
    simpa [byWorker_concat] using
      hands_set (a := [e]) (b := []) h.carried hw Outlet.noConfusion rfl j
  · intro j
    simpa using hands_set (a := []) (b := []) h.given hw Outlet.noConfusion rfl j
  · intro j hj hend
    have hstill := h.ended_set (y := .publishing e none) hw Outlet.noConfusion Outlet.noConfusion
    rcases hstill j hj hend with hc | ⟨-, hnil⟩
    · exact .inl hc
    · rw [hitems] at hnil
      cases hnil
  · exact h.whole_set hw Outlet.noConfusion rfl

/-- A worker gives the event in its hands to the sink. -/
lemma Handing.gives (hw : r.outlets.worker k = .publishing e none) (due : Instant)
    (result : Except SinkError Unit) (notices : List Notice) :
    Handing { r with
      outlets := r.outlets.setWorker k (.publishing e (some (due, result)))
      sim := { r.sim with notices }
      passed := r.passed ++ [⟨k, e⟩] } := by
  constructor <;> simp only
  · exact h.holder_set hw Outlet.noConfusion Outlet.noConfusion _
  · exact h.queue
  · intro j
    simpa [byWorker_concat] using
      hands_set (a := []) (b := [e]) h.carried hw Outlet.noConfusion rfl j
  · intro j
    simpa [byWorker_concat] using hands_set (a := [e]) (b := []) h.given hw Outlet.noConfusion rfl j
  · exact h.ended_set hw Outlet.noConfusion Outlet.noConfusion
  · exact h.whole_set hw Outlet.noConfusion rfl

/-- A worker has its answer. -/
lemma Handing.answers {due : Instant} {result : Except SinkError Unit}
    (hw : r.outlets.worker k = .publishing e (some (due, result))) :
    Handing { r with
      outlets := (r.outlets.onAnswer r.sim k e result).1
      sim := (r.outlets.onAnswer r.sim k e result).2
      answered := r.answered ++ [⟨⟨k, e⟩, result⟩] } := by
  obtain ⟨houtput, hcancelled, hworkers⟩ :
      (r.outlets.onAnswer r.sim k e result).2.output = r.sim.output ∧
      (r.outlets.onAnswer r.sim k e result).1.cancelled = r.outlets.cancelled ∧
      (r.outlets.onAnswer r.sim k e result).1.workers =
        (r.outlets.setWorker k .idle).workers := by
    cases result <;> exact ⟨rfl, rfl, rfl⟩
  have hworker : ∀ j, (r.outlets.onAnswer r.sim k e result).1.worker j =
      (r.outlets.setWorker k .idle).worker j := by
    simp only [Outlets.worker, hworkers, implies_true]
  constructor <;> simp only [houtput, hworker, hcancelled, hworkers]
  · exact h.holder_set hw Outlet.noConfusion Outlet.noConfusion _
  · exact h.queue
  · intro j
    simpa using hands_set (a := []) (b := []) h.carried hw Outlet.noConfusion rfl j
  · intro j
    simpa [byWorker_concat] using hands_set (a := []) (b := [e]) h.given hw Outlet.noConfusion rfl j
  · exact h.ended_set hw Outlet.noConfusion Outlet.noConfusion
  · exact h.whole_set hw Outlet.noConfusion rfl

/-- Events have come into the queue, or it was closed. -/
lemma Handing.sends {q : Queue Event} {more : List Event}
    (hitems : q.items = r.sim.output.items ++ more)
    (hclosed : r.sim.output.closed → q.closed ∧ more = []) :
    Handing { r with sim := { r.sim with output := q }, sent := r.sent ++ more } := by
  refine { h with queue := ?_, ended := fun j hj hend => ?_ }
  · simp only [hitems]
    rw [← h.queue, List.append_assoc]
  · rcases h.ended j hj hend with hc | ⟨hc, hnil⟩
    · exact .inl hc
    · obtain ⟨hq, rfl⟩ := hclosed hc
      exact .inr ⟨hq, by rw [hitems, hnil, List.append_nil]⟩

/-- **Every move keeps the events in hand.** -/
lemma Handing.effect (hr : Effect r gs r') : r'.Handing := by
  cases hr with
  | aside => exact h
  | acquire k hw =>
    refine { h with holder := ?_ }
    rintro j b ⟨⟩
    exact hw
  | look k b b' hh =>
    refine { h with holder := ?_ }
    rintro j b ⟨⟩
    exact h.holder k _ hh
  | finish k b hh hend => exact h.finish (h.holder k b hh) hend
  | take k e output hh hq => exact h.takes hh hq
  | give k e due result notices hw => exact h.gives hw due result notices
  | answer k e due result hw => exact h.answers hw
  | cancel => exact { h with ended := fun _ _ _ => .inl rfl }
  | queue q more hitems hclosed => exact h.sends hitems hclosed

lemma Given.effect (hg : r.Given as) (hr : Effect r gs r') : r'.Given (as ++ gs) := by
  cases hr with
  | aside | acquire | look | cancel | queue =>
    rw [List.append_nil]
    exact ⟨hg.passed, hg.awaited⟩
  | finish k b hh =>
    refine ⟨by simpa [Relay.finish] using hg.passed, fun j => ?_⟩
    have hw := h.holder k b hh
    simpa [Relay.finish] using
      hands_set (a := []) (b := []) (y := .ended) hg.awaited hw Outlet.noConfusion rfl j
  | take k e output hh hq =>
    refine ⟨by simpa using hg.passed, fun j => ?_⟩
    have hw := h.holder k true hh
    simpa using hands_set (a := []) (b := []) hg.awaited hw Outlet.noConfusion rfl j
  | give k e due result notices hw =>
    refine ⟨by simp [hg.passed], fun j => ?_⟩
    simpa [repliesTo_concat] using
      hands_set (a := [(e, result)]) (b := []) hg.awaited hw Outlet.noConfusion rfl j
  | answer k e due result hw =>
    refine ⟨by simpa using hg.passed, fun j => ?_⟩
    have hworker : (r.outlets.onAnswer r.sim k e result).1.worker j =
        (r.outlets.setWorker k .idle).worker j := by
      cases result <;> rfl
    simpa [repliesTo_concat, hworker] using
      hands_set (a := []) (b := [(e, result)]) hg.awaited hw Outlet.noConfusion rfl j

end Moves

lemma Given.run (hg : r.Given as) (h : r.Handing) (moves : List Move) :
    (r.run moves).Given (as ++ yields perform gives r moves) := by
  induction moves generalizing r as with
  | nil => simpa [yields] using hg
  | cons m moves ih =>
    have he := r.perform_effect m
    rw [yields, ← List.append_assoc]
    exact ih (hg.effect h he) (h.effect he)

lemma perform_sent (r : Relay) (m : Move) : (r.perform m).sent = r.sent ++ r.sends m := by
  cases m with
  | offer e waits =>
    by_cases h : (r.sim.output.offer e waits).2 = some true <;> simp [perform, sends, h]
  | acquire | look | receive | publish | answer | cancel | close =>
    simp only [perform, sends, List.append_nil]
    repeat' split
    all_goals rfl

/-- What was sent is what the offers say was taken. -/
lemma run_sent (r : Relay) (moves : List Move) :
    (r.run moves).sent = r.sent ++ yields perform sends r moves :=
  foldl_log perform perform_sent r moves

lemma Handing.run (h : r.Handing) (moves : List Move) : (r.run moves).Handing := by
  induction moves generalizing r with
  | nil => exact h
  | cons m moves ih => exact ih (h.effect (r.perform_effect m))

/-! ### What is counted -/

/-- Each count is told by the answers that were received. -/
structure Tallied (r : Relay) : Prop where
  size : r.outlets.published.size = r.outlets.workers.size
  published : ∀ k < r.outlets.workers.size,
    r.outlets.published[k]? = some (r.answered.countP fun a => a.isAccepted ∧ a.worker = k)
  sum : r.outlets.published.toList.sum = r.answered.countP Answered.isAccepted
  accepted : r.outlets.accepted = r.answered.countP Answered.isAccepted
  events : r.sim.metrics.counts.events = r.answered.countP Answered.isAccepted
  eventsOf : ∀ a, r.sim.metrics.counts.eventsOf a =
    r.answered.countP fun x => x.isAccepted ∧ x.event.action = a
  errorsOf : ∀ kind, r.sim.errorsOf kind = r.answered.countP (Answered.isRefused kind)
  totalErrors : r.sim.metrics.counts.totalErrors = r.answered.countP (!·.isAccepted)

lemma start_tallied (sink : Sink) (count : Nat) (sim : Simulation) (capacity : Nat) :
    (start sink count sim capacity).Tallied := by
  constructor <;> simp only [start, Outlets.start]
  · simp
  · intro k hk
    have hk : k < count := by simpa using hk
    simp [hk]
  · simp
  all_goals first | rfl | exact fun _ => rfl

/-- Nothing was answered, and nothing is counted. -/
lemma Tallied.aside (h : r.Tallied) (ha : r'.answered = r.answered)
    (hm : r'.sim.metrics = r.sim.metrics) (hp : r'.outlets.published = r.outlets.published)
    (hc : r'.outlets.accepted = r.outlets.accepted)
    (hs : r'.outlets.workers.size = r.outlets.workers.size) : r'.Tallied := by
  obtain ⟨size, published, sum, accepted, events, eventsOf, errorsOf, totalErrors⟩ := h
  constructor <;> simp only [Simulation.errorsOf, ha, hm, hp, hc, hs] <;> assumption

lemma sum_modify {xs : Array Nat} (hk : k < xs.size) :
    (xs.modify k (· + 1)).toList.sum = xs.toList.sum + 1 := by
  have hset : xs.modify k (· + 1) = xs.set! k (xs[k] + 1) := by
    refine Array.ext_getElem? fun i => ?_
    rw [Array.getElem?_modify]
    by_cases h : k = i
    · simp [← h, hk]
    · simp [h]
  have hsum := sum_map_set (f := id) (Array.getElem?_eq_getElem hk) (xs[k] + 1)
  simp only [List.map_id, id_eq] at hsum
  rw [hset]
  omega

/-- The sink has accepted an event. -/
lemma Tallied.accepts (h : r.Tallied) {due : Instant}
    (hw : r.outlets.worker k = .publishing e (some (due, .ok ()))) :
    Tallied { r with
      outlets := (r.outlets.onAnswer r.sim k e (.ok ())).1
      sim := (r.outlets.onAnswer r.sim k e (.ok ())).2
      answered := r.answered ++ [⟨⟨k, e⟩, .ok ()⟩] } := by
  have hk := (Array.getElem?_eq_some_iff.mp (Outlets.getElem?_worker hw Outlet.noConfusion)).1
  constructor <;>
    simp only [Outlets.onAnswer, Outlets.setWorker, List.countP_append, List.countP_singleton]
  · simp [h.size]
  · intro j hj
    have hj : j < r.outlets.workers.size := by simpa using hj
    by_cases hkj : k = j <;> simp [Array.getElem?_modify, h.published j hj, hkj]
  · rw [sum_modify (h.size ▸ hk), h.sum]
    rfl
  · rw [h.accepted]
    rfl
  · exact congrArg (· + 1) h.events
  · intro a
    have hevents : (r.sim.metrics.event e.action).counts.eventsOf a =
        r.sim.metrics.counts.eventsOf a + if e.action = a then 1 else 0 :=
      r.sim.metrics.counts.eventsOf_tally e.action a
    rw [hevents, h.eventsOf]
    simp
  · exact fun kind => (h.errorsOf kind).trans (by simp)
  · exact h.totalErrors.trans (by simp)

/-- The sink has refused an event. -/
lemma Tallied.refuses (h : r.Tallied) (k : Nat) (e : Event) (reason : SinkError) :
    Tallied { r with
      outlets := (r.outlets.onAnswer r.sim k e (.error reason)).1
      sim := (r.outlets.onAnswer r.sim k e (.error reason)).2
      answered := r.answered ++ [⟨⟨k, e⟩, .error reason⟩] } := by
  constructor <;>
    simp only [Outlets.onAnswer, Outlets.setWorker, Simulation.note, List.countP_append,
      List.countP_singleton]
  · simp [h.size]
  · intro j hj
    have hj : j < r.outlets.workers.size := by simpa using hj
    simp [h.published j hj]
  · simpa using h.sum
  · simpa using h.accepted
  · exact h.events.trans (by simp)
  · exact fun a => (h.eventsOf a).trans (by simp)
  · intro kind
    have herrors : (r.sim.metrics.error reason.kind).counts.errors.getD kind 0 =
        r.sim.errorsOf kind + if reason.kind = kind then 1 else 0 :=
      Simulation.errors_error r.sim.metrics reason.kind kind
    rw [Simulation.errorsOf, herrors, h.errorsOf]
    simp
  · have htotal : (r.sim.metrics.error reason.kind).counts.totalErrors =
        r.sim.metrics.counts.totalErrors + 1 := total_tally _ _
    rw [htotal, h.totalErrors]
    simp

/-- **Every move keeps the counts.** -/
lemma Tallied.effect (h : r.Tallied) (hr : Effect r gs r') : r'.Tallied := by
  have hsize := hr.size
  cases hr with
  | answer k e due result hw =>
    cases result with
    | ok => exact h.accepts hw
    | error reason => exact h.refuses k e reason
  | _ => exact h.aside rfl rfl rfl rfl hsize

lemma Tallied.run (h : r.Tallied) (moves : List Move) : (r.run moves).Tallied := by
  induction moves generalizing r with
  | nil => exact h
  | cons m moves ih => exact ih (h.effect (r.perform_effect m))

/-! ### Workers come to an end -/

/-- Taking an event out of the queue counts for more than what the worker then has to do with it. -/
def toGo (r : Relay) : Nat :=
  3 * r.sim.output.items.length + (r.outlets.workers.toList.map Outlet.toGo).sum

lemma toGo_of_set {x y : Outlet} (hw : r.outlets.worker k = x) (hx : x ≠ .ended)
    (ho : r'.outlets.workers = r.outlets.workers.set! k y)
    (hless : 3 * r'.sim.output.items.length + Outlet.toGo y <
      3 * r.sim.output.items.length + Outlet.toGo x) : r'.toGo < r.toGo := by
  have hsum : ((r.outlets.workers.set! k y).toList.map Outlet.toGo).sum + Outlet.toGo x =
      (r.outlets.workers.toList.map Outlet.toGo).sum + Outlet.toGo y :=
    sum_map_set (Outlets.getElem?_worker hw hx) y
  rw [toGo, toGo, ho]
  omega

def Ending (r : Relay) : Prop := r.outlets.cancelled ∨ r.sim.output.closed

lemma Effect.ending (hr : Effect r gs r') (he : r.Ending) : r'.Ending := by
  cases hr with
  | aside | acquire | look | finish | give => exact he
  | take k e output hh hq => exact he.imp_right ((Queue.pop_some hq).2.1 ▸ ·)
  | answer k e due result hw => cases result <;> exact he
  | cancel => exact .inl rfl
  | queue q more hitems hclosed => exact he.imp_right fun hc => (hclosed hc).1

lemma Ending.run (he : r.Ending) (moves : List Move) : (r.run moves).Ending := by
  induction moves generalizing r with
  | nil => exact he
  | cons m moves ih => exact ih ((r.perform_effect m).ending he)

def Nears (r : Relay) : Prop := ∃ more, (∀ m ∈ more, m.isOwn) ∧ (r.run more).toGo < r.toGo

lemma nears_of_perform (m : Move) (hm : m.isOwn) (h : (r.perform m).toGo < r.toGo) : r.Nears :=
  ⟨[m], by simpa using hm, h⟩

lemma Nears.after (m : Move) (hm : m.isOwn) (h : (r.perform m).Nears)
    (hr : (r.perform m).toGo = r.toGo) : r.Nears := by
  obtain ⟨more, hown, hless⟩ := h
  exact ⟨m :: more, by simpa [hm] using hown, by simpa [hr] using hless⟩

lemma toGo_finish (hw : r.outlets.worker k = .idle) : (r.finish k).toGo < r.toGo :=
  toGo_of_set hw Outlet.noConfusion rfl (Nat.lt_succ_self _)

section Nearer

variable (h : r.Handing) (he : r.Ending)
include h he

lemma nears_receive (hh : r.holder = some (k, true)) : r.Nears := by
  have hw := h.holder k true hh
  rcases hq : r.sim.output.pop with _ | ⟨e, output⟩
  · by_cases hc : r.sim.output.closed
    · refine nears_of_perform (.receive k) rfl ?_
      simpa [perform, hh, hq, hc] using toGo_finish hw
    · -- An event may still come, so the worker looks again, and sees that it is to end.
      have hcancelled : r.outlets.cancelled := he.resolve_right hc
      refine Nears.after (.receive k) rfl (nears_of_perform (.look k) rfl ?_) ?_ <;>
        simp only [perform, hh, hq, hc, hcancelled, if_true, if_false, Bool.false_eq_true]
      · exact toGo_finish (r := { r with holder := some (k, false) }) hw
      · rfl
  · refine nears_of_perform (.receive k) rfl ?_
    simp only [perform, hh, hq, if_true]
    refine toGo_of_set hw Outlet.noConfusion rfl ?_
    simp [(Queue.pop_some hq).1, Outlet.toGo]
    omega

lemma nears_hold {b : Bool} (hh : r.holder = some (k, b)) : r.Nears := by
  cases b with
  | true => exact nears_receive h he hh
  | false =>
    by_cases hc : r.outlets.cancelled
    · refine nears_of_perform (.look k) rfl ?_
      simpa [perform, hh, hc] using toGo_finish (h.holder k false hh)
    · have hlook : r.perform (.look k) = { r with holder := some (k, true) } := by
        simp [perform, hh, hc]
      have heffect := r.perform_effect (.look k)
      refine Nears.after (.look k) rfl ?_ (by rw [hlook]; rfl)
      exact nears_receive (h.effect heffect) (heffect.ending he) (by rw [hlook])

/-- A worker that is not at its end, or the one that holds the receiver, has something to do. -/
lemma nears_of_worker (hw : r.outlets.worker k ≠ .ended) : r.Nears := by
  rcases hh : r.holder with _ | ⟨j, b⟩
  case some => exact nears_hold h he hh
  rcases hx : r.outlets.worker k with _ | ⟨e, _ | ⟨due, result⟩⟩ | _ | _ | _
  case idle =>
    have hacquire : r.perform (.acquire k) = { r with holder := some (k, false) } := by
      simp [perform, hx, hh]
    have heffect := r.perform_effect (.acquire k)
    refine Nears.after (.acquire k) rfl ?_ (by rw [hacquire]; rfl)
    exact nears_hold (h.effect heffect) (heffect.ending he) (b := false) (by rw [hacquire])
  case publishing.none =>
    refine nears_of_perform (.publish k 0 (.ok ())) rfl ?_
    simp only [perform, hx]
    exact toGo_of_set hx Outlet.noConfusion rfl (Nat.lt_succ_self _)
  case publishing.some =>
    refine nears_of_perform (.answer k) rfl ?_
    simp only [perform, hx]
    cases result <;> exact toGo_of_set hx Outlet.noConfusion rfl (Nat.lt_succ_self _)
  case ended => exact absurd hx hw
  all_goals
    have hwhole := h.whole k
    rw [hx] at hwhole
    cases hwhole

/-- **Workers can always come to an end** once they are told to or there are no senders. -/
lemma exists_ended :
    ∃ more, (∀ m ∈ more, m.isOwn) ∧
      ∀ k < r.outlets.workers.size, (r.run more).outlets.worker k = .ended := by
  generalize hn : r.toGo = n
  induction n using Nat.strongRecOn generalizing r with
  | ind n ih =>
    by_cases hall : ∀ k < r.outlets.workers.size, r.outlets.worker k = .ended
    · exact ⟨[], by simp, hall⟩
    obtain ⟨k, -, hw⟩ : ∃ k < r.outlets.workers.size, r.outlets.worker k ≠ .ended := by
      simpa using hall
    obtain ⟨first, hown, hless⟩ := nears_of_worker h he hw
    obtain ⟨more, hmore, hended⟩ := ih _ (hn ▸ hless) (h.run first) (he.run first) rfl
    refine ⟨first ++ more, ?_, ?_⟩
    · simpa [or_imp, forall_and] using ⟨hown, hmore⟩
    · rw [run_append]
      rwa [run_size] at hended

end Nearer

/-- **Workers relay each event once and in order.** However many workers share the queue, whatever
the sink answers, and whenever they are cancelled, at every moment the events that were taken, in
this order, and then those in the queue are the events that were sent. Each worker gives the events
that it takes to the sink once each and in their order, but for one that it may have in its hands,
and is answered for each in turn, but for one that the sink may have. What was sent, what was given
to the sink and how it answers is what the moves of the run say. The events that are counted are
those that the sink has accepted, in all, by worker and by action, and the sink counts as many; the
errors are those that it has refused. A worker that has ended has been answered for all its
events; and if it was not told to end, there are no senders any more and every event that was sent
was taken. Once workers are told to end or there are no senders, they can all come to their end by
themselves. -/
theorem run_relays (sink : Sink) (count : Nat) (sim : Simulation) (capacity : Nat)
    (moves : List Move) :
    let r₀ := start sink count sim capacity
    let r := r₀.run moves
    let counts := r.sim.metrics.counts
    let given := yields perform gives r₀ moves
    r.sent = yields perform sends r₀ moves ∧
    r.passed = given.map (·.toHanded) ∧
    (∀ k, repliesTo k given = repliesTo k r.answered ++ (r.outlets.worker k).awaited) ∧
    r.taken.map (·.event) ++ r.sim.output.items = r.sent ∧
    (∀ k, byWorker k r.taken = byWorker k r.passed ++ (r.outlets.worker k).carried) ∧
    (∀ k, byWorker k r.passed =
      byWorker k (r.answered.map (·.toHanded)) ++ (r.outlets.worker k).given) ∧
    counts.events = r.outlets.published.toList.sum ∧
    counts.events = r.outlets.accepted ∧
    counts.events = r.answered.countP Answered.isAccepted ∧
    (∀ k < count, r.outlets.published[k]? =
      some (r.answered.countP fun a => a.isAccepted ∧ a.worker = k)) ∧
    (∀ action, counts.eventsOf action =
      r.answered.countP fun a => a.isAccepted ∧ a.event.action = action) ∧
    counts.totalErrors = r.answered.countP (!·.isAccepted) ∧
    (∀ kind, r.sim.errorsOf kind = r.answered.countP (Answered.isRefused kind)) ∧
    (∀ k < count, r.outlets.worker k = .ended →
      byWorker k r.taken = byWorker k (r.answered.map (·.toHanded)) ∧
      (r.outlets.cancelled ∨ r.sim.output.closed ∧ r.taken.map (·.event) = r.sent)) ∧
    (r.Ending → ∃ more, (∀ m ∈ more, m.isOwn) ∧
      ∀ k < count, (r.run more).outlets.worker k = .ended) := by
  intro r₀ r counts given
  have h₀ : r₀.Handing := start_handing sink count sim capacity
  have h : r.Handing := h₀.run moves
  have hg : r.Given given := (start_given sink count sim capacity).run h₀ moves
  have ht : r.Tallied := (start_tallied sink count sim capacity).run moves
  have hsize : r.outlets.workers.size = count := by
    rw [run_size]
    simp [r₀, start, Outlets.start]
  refine ⟨r₀.run_sent moves, hg.passed, hg.awaited, h.queue, h.carried, h.given,
    ht.events.trans ht.sum.symm, ht.events.trans ht.accepted.symm, ht.events,
    fun k hk => ht.published k (hsize ▸ hk), ht.eventsOf, ht.totalErrors, ht.errorsOf,
    fun k hk hend => ⟨?_, ?_⟩, fun he => hsize ▸ exists_ended h he⟩
  · rw [h.carried, h.given, hend]
    simp [Outlet.carried, Outlet.given]
  · rcases h.ended k (hsize ▸ hk) hend with hc | ⟨hc, hnil⟩
    · exact .inl hc
    · have hqueue := h.queue
      rw [hnil, List.append_nil] at hqueue
      exact .inr ⟨hc, hqueue⟩

/-- A visitor buys something, and another one leaves. -/
def sale : Event := { (default : Event) with id := "evt-1", action := .purchased }

def farewell : Event := { (default : Event) with id := "evt-2", action := .exit }

/-- There is room for one event only, and the second has to wait. Two workers take an event each;
the sink accepts the first and refuses the second, and it is the second that is answered first. -/
def errand : List Move :=
  [.offer sale false, .offer farewell false, .acquire 0, .look 0, .receive 0, .offer farewell true,
    .acquire 1, .look 1, .receive 1, .publish 0 7 (.ok ()), .publish 1 3 (.error (.publish "full")),
    .answer 1, .answer 0]

theorem run_relays_errand :
    let r₀ := start .discard 2 (.create 1 60000 1 .standard) 1
    let r := r₀.run errand
    yields perform sends r₀ errand = [sale, farewell] ∧
      repliesTo 1 (yields perform gives r₀ errand) = [(farewell, .error (.publish "full"))] ∧
      r.answered = [⟨⟨1, farewell⟩, .error (.publish "full")⟩, ⟨⟨0, sale⟩, .ok ()⟩] ∧
      r.taken.map (·.event) ++ r.sim.output.items = [sale, farewell] ∧
      r.sim.metrics.counts.events = 1 ∧ r.sim.metrics.counts.eventsOf .purchased = 1 ∧
      r.outlets.published[0]? = some 1 ∧ r.sim.metrics.counts.totalErrors = 1 ∧
      r.sim.errorsOf "publish" = 1 := by
  obtain ⟨hsent, -, hgiven, htaken, -, -, -, -, hevents, hpublished, hof, htotal, herrors, -⟩ :=
    run_relays .discard 2 (.create 1 60000 1 .standard) 1 errand
  exact ⟨hsent.symm.trans rfl, (hgiven 1).trans rfl, rfl, htaken.trans rfl, hevents.trans rfl,
    (hof .purchased).trans rfl, (hpublished 0 (by decide)).trans rfl, htotal.trans rfl,
    (herrors "publish").trans (by decide)⟩

end Relay

end ShopTraffic
