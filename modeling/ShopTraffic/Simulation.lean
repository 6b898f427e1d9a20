import ShopTraffic.Behaviour.Engine
import ShopTraffic.Event
import ShopTraffic.Log
import ShopTraffic.Metrics.Counters
import ShopTraffic.Payload.Generate
import ShopTraffic.Queue
import ShopTraffic.Registry
import ShopTraffic.Visitors

/-!
A step of the simulation: some visitor moves on, and the event of the move goes to the output queue.
A step is begun, then its event is sent, and then it is finished; between these parts other steps
may run. Each part is one function on the state that all steps share.
-/

namespace ShopTraffic

open ShopTraffic.Random

/-- What all steps share. -/
structure Simulation where
  table : Table
  visitors : Visitors
  registry : Registry
  userSource : Source
  engineSource : Source
  payloadSource : Source
  output : Queue Event
  metrics : Metrics := {}
  /-- What has been reported, the latest first. -/
  notices : List Notice := []

inductive Outcome
  | noUser | noTransition | emitted | queueClosed
  deriving DecidableEq, Repr

def Outcome.name : Outcome → String
  | noUser => "no_user"
  | noTransition => "no_transition"
  | emitted => "emitted"
  | queueClosed => "queue_closed"

structure Pending where
  user : String
  event : Event
  deriving Inhabited

namespace Simulation

def note (sim : Simulation) (n : Notice) : Simulation := { sim with notices := n :: sim.notices }

/-- A simulation without visitors. Visitors, moves and payloads draw from sources of their own,
forked off one seed in this order. -/
def create (seed : UInt64) (ttl : Time) (capacity : Nat) (table : Table) : Simulation :=
  let (userSource, s) := Draw.fork (Source.seeded seed)
  let (engineSource, s) := Draw.fork s
  let (payloadSource, _) := Draw.fork s
  { table, visitors := {}, registry := { ttl }, userSource, engineSource, payloadSource,
    output := { capacity } }

/-- Sees to it that there are enough visitors; the answer is how many were added. -/
def ensureVisitors (sim : Simulation) (least : Nat) : Simulation × Nat :=
  if sim.visitors.isShort least then
    let old := sim.visitors.size
    ({ sim with visitors := sim.visitors.extend least }.note (.usersGrown old least), least - old)
  else (sim, 0)

def drawVisitor (sim : Simulation) : Simulation × Option String :=
  let (user, userSource) := sim.visitors.draw sim.userSource
  ({ sim with userSource }, user)

/-- Reports and counts how a visitor came by a session. -/
def countOrigin (sim : Simulation) (user : String) : Origin → Simulation
  | .kept => sim
  | .opened | .afterExit => { sim with metrics := sim.metrics.started }
  | .afterExpiry session =>
    { sim with metrics := sim.metrics.completed.started }.note (.sessionReplaced user session)

def obtain (sim : Simulation) (user : String) (now : Time) : Simulation × Nat :=
  let (registry, handle, origin) := sim.registry.obtain user now
  ({ sim with registry }.countOrigin user origin, handle)

def drop (sim : Simulation) (user session : String) : Simulation :=
  { sim with registry := (sim.registry.delete user session).1 }

/-- Moves a session on and describes the move, without anything between the two. -/
def advance (sim : Simulation) (handle : Nat) (now : Time) : Simulation × Option Event :=
  match (sim.registry.session handle).step sim.table now sim.engineSource with
  | ((s, none), engineSource) =>
    ({ sim with engineSource, registry := sim.registry.update handle fun _ => s }, none)
  | ((s, some e), engineSource) =>
    let (g, payloadSource) := Payload.generate e.action s sim.payloadSource
    let sim := { sim with
      engineSource, payloadSource
      registry := sim.registry.update handle fun _ => g.session
      notices := (g.unmatched.map Notice.keywordUnmatched).toList ++ sim.notices }
    (sim, some (e.withExtra g.fields))

def retire (sim : Simulation) (user : String) (handle : Nat) : Simulation :=
  let s := sim.registry.session handle
  if s.state.isTerminal then sim.drop user s.id else sim

def countMove (sim : Simulation) (e : Event) : Simulation :=
  let m := sim.metrics
  let m := if e.previous = e.state then m else m.transition e.previous e.state
  let m := if e.action.startsSession then m.started else m
  { sim with metrics := m }.note (.eventProduced e.user e.action e.previous e.state)

/-- The part of a step before its event is sent; a step without an event ends here. -/
def begin (sim : Simulation) (now : Time) : Simulation × (Outcome ⊕ Pending) :=
  match sim.drawVisitor with
  | (sim, none) => (sim, .inl .noUser)
  | (sim, some user) =>
    let (sim, handle) := sim.obtain user now
    match sim.advance handle now with
    | (sim, none) => (sim.retire user handle, .inl .noTransition)
    | (sim, some event) => (sim.countMove event, .inr ⟨user, event⟩)

/-- The part of a step after its event was sent, or was refused because the queue is closed. -/
def finish (sim : Simulation) (p : Pending) (sent : Bool) : Simulation × Outcome :=
  let sim := if sent then sim else { sim with metrics := sim.metrics.error "queue_closed" }
  let sim := if p.event.action.endsSession then
      let sim := sim.drop p.user p.event.session
      { sim with metrics := sim.metrics.completed }
    else sim
  (sim, if sent then .emitted else .queueClosed)

inductive Sending
  | finished (outcome : Outcome)
  | blocked
  deriving DecidableEq, Repr

/-- Sends the event of a step and finishes it; the step has to wait if the queue is full. -/
def send (sim : Simulation) (p : Pending) : Simulation × Sending :=
  if sim.output.closed then
    let (sim, o) := sim.finish p false
    (sim, .finished o)
  else if sim.output.hasRoom then
    let (sim, o) := { sim with output := sim.output.push p.event }.finish p true
    (sim, .finished o)
  else ({ sim with output := sim.output.wait }, .blocked)

/-- Goes on with the step that has waited longest, if it was granted a slot or cannot get one. -/
def resume? (sim : Simulation) (p : Pending) : Option (Simulation × Outcome) :=
  if sim.output.closed then
    some ({ sim with output := sim.output.abandon }.finish p false)
  else if sim.output.granted > 0 then
    some ({ sim with output := sim.output.deliver p.event }.finish p true)
  else none

def sweep (sim : Simulation) (now : Time) : Simulation × Nat :=
  let (registry, removed) := sim.registry.sweep now
  let sim := { sim with
    registry, metrics := (sim.metrics.completedTimes removed).activeSessions registry.size }
  (if removed = 0 then sim else sim.note (.sessionsSwept removed registry.size), removed)

end Simulation

end ShopTraffic
