import ShopTraffic.Simulation
import ShopTraffic.Sink.Sink

/-!
Sink workers share the output queue. A worker takes the oldest event and gives it to the sink; what
the sink answers is counted, and a refusal is no reason to stop. Cancelling lets a worker finish the
event in its hands.
-/

namespace ShopTraffic

/-- What a sink worker is doing, or how it came to an end. An aborted worker takes the event that it
holds with it. -/
inductive Outlet
  | idle
  | publishing (event : Event) (answer : Option (Instant × Except SinkError Unit))
  | ended
  | failed (reason : String)
  | aborted (held : Option Event)
  deriving Inhabited

/-- The sink with its workers, and how many events each of them and the sink itself have
published. -/
structure Outlets where
  sink : Sink
  workers : Array Outlet := #[]
  published : Array Nat := #[]
  accepted : Nat := 0
  cancelled : Bool := false

namespace Outlets

/-- So many workers for a sink, not started yet. -/
def start (o : Outlets) (count : Nat) : Outlets :=
  { o with workers := Array.replicate count .idle, published := Array.replicate count 0 }

def worker (o : Outlets) (k : Nat) : Outlet := (o.workers[k]?).getD .ended

def setWorker (o : Outlets) (k : Nat) (x : Outlet) : Outlets :=
  { o with workers := o.workers.set! k x }

/-- Workers take no further events. -/
def cancel (o : Outlets) : Outlets := { o with cancelled := true }

def abort (o : Outlets) (k : Nat) : Outlets :=
  o.setWorker k <| .aborted <|
    match o.worker k with
    | .publishing e _ => some e
    | _ => none

inductive Move
  | take (worker : Nat)
  | answer (worker : Nat)
  | finish (worker : Nat)
  deriving DecidableEq, Repr

def enabled (o : Outlets) (q : Queue Event) (now : Instant) : Move → Bool
  | .take k =>
    match o.worker k with
    | .idle => !o.cancelled && 0 < q.length
    | _ => false
  | .answer k =>
    match o.worker k with
    | .publishing _ (some (due, _)) => wholeMs due ≤ now
    | _ => false
  | .finish k =>
    match o.worker k with
    | .idle => o.cancelled || (q.closed && q.length = 0)
    | _ => false

def onTake (o : Outlets) (now : Instant) (k : Nat) (e : Event) : Outlets :=
  o.setWorker k <|
    match o.sink.publish e with
    | .answers delay result => .publishing e (some (now + delay, result))
    | .never => .publishing e none
    | .breaks reason => .failed reason

def onAnswer (o : Outlets) (sim : Simulation) (k : Nat) (e : Event) :
    Except SinkError Unit → Outlets × Simulation
  | .ok () =>
    ({ o with
        published := o.published.modify k (· + 1)
        accepted := o.accepted + 1 }.setWorker k .idle,
      { sim with metrics := sim.metrics.event e.action })
  | .error reason =>
    (o.setWorker k .idle,
      { sim with metrics := sim.metrics.error reason.kind }.note
        (.publishFailed k e.id reason.message))

/-- Makes a move; one that is not possible changes nothing. -/
def perform (m : Move) (o : Outlets) (sim : Simulation) (now : Instant) : Outlets × Simulation :=
  if !o.enabled sim.output now m then (o, sim)
  else
    match m with
    | .take k =>
      match sim.output.pop with
      | some (e, output) =>
        (o.onTake now k e, { sim with output, notices := o.sink.notices e ++ sim.notices })
      | none => (o, sim)
    | .answer k =>
      match o.worker k with
      | .publishing e (some (_, result)) => o.onAnswer sim k e result
      | _ => (o, sim)
    | .finish k =>
      let count := (o.published[k]?).getD 0
      (o.setWorker k .ended, sim.note (.sinkEnded k count))

def moveOf? (o : Outlets) (q : Queue Event) (now : Instant) (k : Nat) : Option Move :=
  [Move.answer k, .take k, .finish k].find? (o.enabled q now)

/-- The first worker with a move makes it. -/
def choose (o : Outlets) (q : Queue Event) (now : Instant) : Option Move :=
  (List.range o.workers.size).findSome? (o.moveOf? q now)

def deadline (o : Outlets) : Option Instant :=
  o.workers.foldl (fun d w =>
    match w with
    | .publishing _ (some (due, _)) => sooner d (some (wholeMs due))
    | _ => d) none

def isOver (o : Outlets) : Bool :=
  o.workers.all fun
    | .idle | .publishing _ _ => false
    | _ => true

/-- Sink workers on their own, with the queue and the counters of a simulation. -/
structure Alone where
  outlets : Outlets
  sim : Simulation
  instant : Instant := 0

def clockwork : Clockwork Alone Move where
  choose a := a.outlets.choose a.sim.output a.instant
  perform m a :=
    let (outlets, sim) := a.outlets.perform m a.sim a.instant
    { a with outlets, sim }
  instant := Alone.instant
  setInstant t a := { a with instant := t }
  deadline a := a.outlets.deadline

def Alone.run (a : Alone) : Alone := clockwork.run (·.outlets.isOver) none Clockwork.patience a

end Outlets

end ShopTraffic
