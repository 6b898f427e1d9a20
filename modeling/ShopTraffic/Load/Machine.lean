import ShopTraffic.Load.Plan
import ShopTraffic.Simulation

/-!
The load on the simulation. A ticker grows the pool of visitors and sends one ticket for each worker
at every tick; a worker takes a ticket and makes the steps of its batch. Everything that the ticker
or a worker does without waiting is one move, so any interleaving of them is a sequence of moves.
-/

namespace ShopTraffic

inductive Ticker
  | fresh
  | waiting (due : Instant)
  | dispatching (left : Nat) (next : Instant)
  | ended
  | failed
  deriving DecidableEq, Repr, Inhabited

/-- What a worker is doing: the steps of its batch that are left and those that it has made, and the
event that it wants to send. -/
inductive Worker
  | idle
  | running (left made : Nat)
  | holding (left made : Nat) (step : Pending)
  | waiting (left made : Nat) (step : Pending)
  | ended
  deriving Inhabited

/-- The worker is in the middle of a batch and does not wait. -/
def Worker.isBusy : Worker → Bool
  | running _ _ | holding _ _ _ => true
  | idle | waiting _ _ _ | ended => false

def Worker.isIdle : Worker → Bool
  | idle => true
  | running _ _ | holding _ _ _ | waiting _ _ _ | ended => false

/-- Counters of the load. Steps are counted when their ticket is done, events at once. -/
structure LoadStats where
  ticks : Nat := 0
  tickets : Nat := 0
  steps : Nat := 0
  emitted : Nat := 0
  deriving DecidableEq, Repr, Inhabited

structure Load where
  sim : Simulation
  /-- What the wall clock shows. -/
  wall : Time
  instant : Instant := 0
  tick : Instant
  workerCount : Nat
  started : Bool := false
  stopping : Bool := false
  plan : Plan := default
  ticker : Ticker := .ended
  workers : Array Worker := #[]
  /-- The workers that wait for a slot of the output queue, in the order in which they came. -/
  senders : List Nat := []
  /-- The tickets that no worker has taken yet. -/
  tickets : Nat := 0
  stats : LoadStats := {}

inductive StartError
  | alreadyStarted | stopped | zeroRate | beyondLimits
  deriving DecidableEq, Repr

def StartError.message : StartError → String
  | alreadyStarted => "调度器已启动"
  | stopped => "调度器已停止，不能再次启动"
  | zeroRate => "目标速率必须大于 0"
  | beyondLimits => ""

def maxSlots : Nat := (2 ^ (64 : Nat) - 1) / 8

namespace Load

def isRunning (l : Load) : Bool := l.started && !l.stopping

def note (l : Load) (n : Notice) : Load := { l with sim := l.sim.note n }

def launch (l : Load) (p : Plan) : Load :=
  let l := { l with plan := p, ticker := .fresh, workers := Array.replicate p.workers .idle }
  let l := l.note (.loadStarted p.rate p.workers (p.tick / nanosPerMs % 2 ^ (64 : Nat))
    p.stepsPerTick p.batch p.effectiveRate)
  if p.effectiveRate = p.rate then l else l.note (.loadRounded p.rate p.effectiveRate)

/-- Starts the load. It can be started once, and not after it was stopped. -/
def start (l : Load) (rate : Nat) : Except StartError (Load × Plan) :=
  if rate = 0 then .error .zeroRate
  else if l.stopping then .error .stopped
  else if l.started then .error .alreadyStarted
  else
    match Plan.make? rate l.tick l.workerCount with
    | none => .error .beyondLimits
    | some p =>
      if p.workers > maxSlots then .error .beyondLimits
      else .ok ({ l with started := true }.launch p, p)

/-- The ticker and the workers are to end; tickets that were taken are finished first. -/
def stop (l : Load) : Load :=
  if l.stopping then l else { l with stopping := true }.note .loadStopping

def isOver (l : Load) : Bool :=
  (l.ticker = .ended || l.ticker = .failed) && l.workers.all fun
    | .ended => true
    | _ => false

inductive Move
  | arm
  | tick
  | dispatch
  | endTicker
  | take (worker : Nat)
  | begin (worker : Nat)
  | send (worker : Nat)
  | resume (worker : Nat)
  | conclude (worker : Nat)
  | endWorker (worker : Nat)
  deriving DecidableEq, Repr

def worker (l : Load) (w : Nat) : Worker := (l.workers[w]?).getD .ended

def setWorker (l : Load) (w : Nat) (x : Worker) : Load :=
  { l with workers := l.workers.set! w x }

/-- How late a tick may be before the ticks after it are put off. -/
def tolerance : Nat := 5 * nanosPerMs

/-- When the next tick is due: on the old grid, or a tick from now if this one came too late. -/
def nextDue (l : Load) (due : Instant) : Instant :=
  if l.instant > due + tolerance then l.instant + l.tick else due + l.tick

/-- The queue has a slot for a waiting worker, or will never have one. -/
def canResume (l : Load) (w : Nat) : Bool :=
  l.senders.contains w && (l.sim.output.closed || l.senders.idxOf w < l.sim.output.granted)

def enabled (l : Load) : Move → Bool
  | .arm => l.ticker = .fresh && (!l.stopping || l.tick = 0)
  | .tick =>
    match l.ticker with
    | .waiting due => wholeMs due ≤ l.instant && !l.stopping
    | _ => false
  | .dispatch =>
    match l.ticker with
    | .dispatching _ _ => l.tickets < l.plan.workers && !l.stopping
    | _ => false
  | .endTicker => l.stopping && l.ticker ≠ .ended && l.ticker ≠ .failed
  | .take w =>
    match l.worker w with
    | .idle => 0 < l.tickets && !l.stopping
    | _ => false
  | .begin w =>
    match l.worker w with
    | .running (_ + 1) _ => true
    | _ => false
  | .send w =>
    match l.worker w with
    | .holding _ _ _ => true
    | _ => false
  | .resume w =>
    match l.worker w with
    | .waiting _ _ _ => l.canResume w
    | _ => false
  | .conclude w =>
    match l.worker w with
    | .running 0 _ => true
    | _ => false
  | .endWorker w =>
    match l.worker w with
    | .idle => l.stopping || (l.tickets = 0 && (l.ticker = .ended || l.ticker = .failed))
    | _ => false

/-- Counts a step; the first refusal of the queue ends its batch. -/
def stepped (l : Load) (w left made : Nat) : Outcome → Load
  | .emitted =>
    { l with stats := { l.stats with emitted := l.stats.emitted + 1 } }.setWorker w
      (.running left (made + 1))
  | .queueClosed => l.setWorker w (.running 0 (made + 1))
  | .noUser | .noTransition => l.setWorker w (.running left (made + 1))

/-- A tick: the pool grows, and a ticket for each worker is to be sent. -/
def onTick (l : Load) (due : Instant) : Load :=
  { l with
    sim := (l.sim.ensureVisitors l.plan.userFloor).1
    stats := { l.stats with ticks := l.stats.ticks + 1 }
    ticker := .dispatching l.plan.workers (l.nextDue due) }

def onDispatch (l : Load) (left : Nat) (next : Instant) : Load :=
  { l with
    tickets := l.tickets + 1
    stats := { l.stats with tickets := l.stats.tickets + 1 }
    ticker := if left ≤ 1 then .waiting next else .dispatching (left - 1) next }

def onBegin (l : Load) (w left made : Nat) : Load :=
  match l.sim.begin l.wall with
  | (sim, .inl o) => { l with sim }.stepped w left made o
  | (sim, .inr p) => { l with sim }.setWorker w (.holding left made p)

def onSend (l : Load) (w left made : Nat) (p : Pending) : Load :=
  match l.sim.send p with
  | (sim, .finished o) => { l with sim }.stepped w left made o
  | (sim, .blocked) =>
    { l with sim, senders := l.senders ++ [w] }.setWorker w (.waiting left made p)

def onResume (l : Load) (w left made : Nat) (p : Pending) : Load :=
  match l.sim.resume? p with
  | some (sim, o) => { l with sim, senders := l.senders.erase w }.stepped w left made o
  | none => l

/-- A batch is done: its steps are counted, and the worker is free again. -/
def onConclude (l : Load) (w made : Nat) : Load :=
  { l with
    stats := { l.stats with steps := l.stats.steps + made }
    sim := { l.sim with metrics := l.sim.metrics.steps made } }.setWorker w .idle

/-- Makes a move; one that is not possible changes nothing. -/
def perform (m : Move) (l : Load) : Load :=
  if !l.enabled m then l
  else
    match m with
    | .arm => { l with ticker := if l.tick = 0 then .failed else .waiting l.instant }
    | .tick =>
      match l.ticker with
      | .waiting due => l.onTick due
      | _ => l
    | .dispatch =>
      match l.ticker with
      | .dispatching left next => l.onDispatch left next
      | _ => l
    | .endTicker => { l with ticker := .ended }.note (.tickerEnded l.stats.ticks)
    | .take w => { l with tickets := l.tickets - 1 }.setWorker w (.running l.plan.batch 0)
    | .begin w =>
      match l.worker w with
      | .running (left + 1) made => l.onBegin w left made
      | _ => l
    | .send w =>
      match l.worker w with
      | .holding left made p => l.onSend w left made p
      | _ => l
    | .resume w =>
      match l.worker w with
      | .waiting left made p => l.onResume w left made p
      | _ => l
    | .conclude w =>
      match l.worker w with
      | .running _ made => l.onConclude w made
      | _ => l
    | .endWorker w => (l.setWorker w .ended).note (.workerEnded w)

def busyMove? (l : Load) (w : Nat) : Option Move :=
  match l.worker w with
  | .running 0 _ => some (.conclude w)
  | .running (_ + 1) _ => some (.begin w)
  | .holding _ _ _ => some (.send w)
  | _ => none

def idleMove? (l : Load) (w : Nat) : Option Move :=
  [Move.take w, .endWorker w].find? l.enabled

/-- The move that comes next: batches first, then the sender that has waited longest, then the
ticker, then the first worker that is free. -/
def choose (l : Load) : Option Move :=
  ((l.workers.findIdx? Worker.isBusy).bind l.busyMove?).or <|
    ((l.senders.head?.map Move.resume).filter l.enabled).or <|
      ([Move.arm, .tick, .dispatch, .endTicker].find? l.enabled).or <|
        (l.workers.findIdx? Worker.isIdle).bind l.idleMove?

def deadline (l : Load) : Option Instant :=
  match l.ticker with
  | .waiting due => if l.stopping then none else some (wholeMs due)
  | _ => none

def clockwork : Clockwork Load Move where
  choose := choose
  perform := perform
  instant := Load.instant
  setInstant t l := { l with instant := t }
  deadline := deadline

def advance (l : Load) (span : Instant) : Load :=
  clockwork.run (fun _ => false) (some (l.instant + span)) Clockwork.patience l

/-- Whoever waits for the tasks is told of one that failed. -/
def collect (l : Load) : Load :=
  if l.ticker = .failed then
    { l with ticker := .ended }.note (.taskFailed "`period` must be non-zero.")
  else l

/-- Waits until the ticker and the workers have ended, but not longer than the limit; the answer
says whether they have. -/
def join (l : Load) (limit : Instant) : Load × Bool :=
  let l := clockwork.run isOver (some (l.instant + limit)) Clockwork.patience l
  if l.isOver then (l.collect, true) else (l, false)

end Load

end ShopTraffic
