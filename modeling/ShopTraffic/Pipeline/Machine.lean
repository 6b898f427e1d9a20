import ShopTraffic.Load.Machine
import ShopTraffic.Settings.Settings
import ShopTraffic.Sink.Outlets

/-!
The whole program at work: the load, the sink workers, two routines in the background, and the
shutdown. Each of them has moves of its own, and the shutdown is no exception: it waits, looks at
the queue, and goes on, while all others may still be moving.
-/

namespace ShopTraffic

/-- A task in the background that does its work at regular intervals. -/
inductive Routine
  | absent
  | fresh
  | waiting (due : Instant)
  | ended
  deriving DecidableEq, Repr, Inhabited

/-- The routine does not run, or not any more. -/
def Routine.isOver : Routine → Bool
  | absent | ended => true
  | fresh | waiting _ => false

inductive Closing
  | unasked
  | joining (deadline : Instant)
  | looking (deadline : Instant)
  | pausing (deadline wake : Instant)
  | halting (worker : Nat)
  | awaiting (worker : Nat) (limit : Instant)
  | clearing
  | rejoining
  | leaving
  | closed
  deriving DecidableEq, Repr, Inhabited

/-- What the shutdown has found out: whether the load ended in time, whether the queue was seen
empty in time, and how many events were dropped. -/
structure Findings where
  joined : Bool := false
  drained : Bool := false
  dropped : Nat := 0
  deriving DecidableEq, Repr, Inhabited

structure Pipeline where
  settings : GeneratorSettings
  /-- What the clock of the machine showed when virtual time began. -/
  uptime : Instant
  load : Load
  outlets : Outlets
  sweeper : Routine := .absent
  reporter : Routine := .absent
  /-- The routines in the background are to end. -/
  dismissed : Bool := false
  closing : Closing := .unasked
  findings : Findings := {}

namespace Pipeline

inductive Move
  | close
  | load (move : Load.Move)
  | outlet (move : Outlets.Move)
  | armSweeper
  | sweep
  | endSweeper
  | armReporter
  | report
  | endReporter
  deriving DecidableEq, Repr

def instant (p : Pipeline) : Instant := p.load.instant

def queue (p : Pipeline) : Queue Event := p.load.sim.output

def metrics (p : Pipeline) : Metrics := p.load.sim.metrics

def note (p : Pipeline) (n : Notice) : Pipeline := { p with load := p.load.note n }

/-- How long the shutdown rests between two looks at the queue. -/
def lookInterval : Instant := 100 * nanosPerMs

/-- How long a sink worker may take for the event in its hands. -/
def grace : Instant := nanosPerSec

def isDone : Outlet → Bool
  | .idle | .publishing _ _ => false
  | .ended | .failed _ | .aborted _ => true

def canClose (p : Pipeline) : Bool :=
  match p.closing with
  | .unasked | .closed => false
  | .joining deadline => p.load.isOver || wholeMs deadline ≤ p.instant
  | .pausing _ wake => wholeMs wake ≤ p.instant
  | .awaiting k limit => isDone (p.outlets.worker k) || wholeMs limit ≤ p.instant
  | .looking _ | .halting _ | .clearing => true
  | .rejoining => p.load.isOver
  | .leaving => p.sweeper.isOver && p.reporter.isOver

def isDue (p : Pipeline) : Routine → Bool
  | .waiting due => wholeMs due ≤ p.instant
  | _ => false

def isWaiting : Routine → Bool
  | .waiting _ => true
  | _ => false

def enabled (p : Pipeline) : Move → Bool
  | .close => p.canClose
  | .load m => p.load.enabled m
  | .outlet m => p.outlets.enabled p.queue p.instant m
  | .armSweeper => p.sweeper = .fresh
  | .sweep => p.isDue p.sweeper && !p.dismissed
  | .endSweeper => isWaiting p.sweeper && p.dismissed
  | .armReporter => p.reporter = .fresh
  | .report => p.isDue p.reporter && !p.dismissed
  | .endReporter => isWaiting p.reporter && p.dismissed

/-! ### The shutdown -/

/-- The load has ended or the time is up. -/
def onJoined (p : Pipeline) (deadline : Instant) : Pipeline :=
  if p.load.isOver then
    { p with
      load := p.load.collect
      findings := { p.findings with joined := true }, closing := .looking deadline }
  else { p with closing := .looking deadline }.note .workersLate

/-- A look at the queue: it is empty, or the time is up, or another look is to follow. The sink
workers are told to end once no look is to follow. -/
def onLook (p : Pipeline) (deadline : Instant) : Pipeline :=
  if p.queue.used = 0 then
    { p with
      findings := { p.findings with drained := true }
      outlets := p.outlets.cancel, closing := .halting 0 }
  else if deadline ≤ p.instant then { p with outlets := p.outlets.cancel, closing := .halting 0 }
  else { p with closing := .pausing deadline (min (p.instant + lookInterval) deadline) }

/-- Turns to a sink worker, or goes on when there is none left. -/
def onHalt (p : Pipeline) (k : Nat) : Pipeline :=
  { p with
    closing := if k < p.outlets.workers.size then .awaiting k (p.instant + grace) else .clearing }

/-- A sink worker has ended, or has used up its time and is ended by force. -/
def onAwaited (p : Pipeline) (k : Nat) : Pipeline :=
  let p := { p with closing := .halting (k + 1) }
  match p.outlets.worker k with
  | .failed reason => p.note (.sinkFailed reason)
  | .ended | .aborted _ => p
  | .idle | .publishing _ _ => { p with outlets := p.outlets.abort k }.note .sinkStuck

/-- Closes the queue and drops what is in it. -/
def onClear (p : Pipeline) : Pipeline :=
  let dropped := p.queue.length
  let sim := p.load.sim
  let p := { p with
    load := { p.load with sim := { sim with output := sim.output.close.clear } }
    findings := { p.findings with dropped }, closing := .rejoining }
  if dropped = 0 then p
  else p.note (.eventsDropped dropped (p.settings.drainSecs * 1000 % 2 ^ (64 : Nat)))

/-- All tasks of the load have ended. What the sink holds back is pushed out, and the routines in
the background are told to end. -/
def onRejoined (p : Pipeline) : Pipeline :=
  let p := if p.findings.joined then p else { p with load := p.load.collect }
  let p := match p.outlets.sink.flush with
    | .ok () => p
    | .error e => p.note (.flushFailed e.message)
  { p with dismissed := true, closing := .leaving }

def onLeft (p : Pipeline) : Pipeline :=
  { p with closing := .closed }.note
    (.pipelineClosed p.findings.drained p.findings.dropped p.load.stats.steps
      p.metrics.counts.summary)

def onClose (p : Pipeline) : Pipeline :=
  match p.closing with
  | .unasked | .closed => p
  | .joining deadline => p.onJoined deadline
  | .looking deadline => p.onLook deadline
  | .pausing deadline _ => { p with closing := .looking deadline }
  | .halting k => p.onHalt k
  | .awaiting k _ => p.onAwaited k
  | .clearing => p.onClear
  | .rejoining => p.onRejoined
  | .leaving => p.onLeft

/-! ### The background -/

/-- The interval of a routine begins when the routine is first run. -/
def onArmSweeper (p : Pipeline) : Pipeline :=
  let interval := p.settings.sweepInterval
  { p with sweeper := .waiting (p.instant + interval) }.note
    (.sweeperStarted (interval / nanosPerMs % 2 ^ (64 : Nat)))

def onSweep (p : Pipeline) : Pipeline :=
  let now := p.load.wall
  { p with
    load := { p.load with sim := (p.load.sim.sweep now).1 }
    sweeper := .waiting (p.instant + p.settings.sweepInterval) }

def onArmReporter (p : Pipeline) : Pipeline :=
  { p with reporter := .waiting (p.instant + p.settings.reportInterval) }

/-- The part of the queue's slots that is taken, in percent with one place. -/
def lagText (used capacity : Nat) : String :=
  Decimal.fixed 1 (Float.ofNat used * 100 / Float.ofNat capacity)

def progress (p : Pipeline) : Notice :=
  let c := p.metrics.counts
  let used := p.queue.used
  let capacity := p.queue.capacity
  .progress c.events c.started c.completed c.totalErrors p.load.stats.steps
    p.load.sim.registry.size used capacity (lagText used capacity)

def onReport (p : Pipeline) : Pipeline :=
  let line := p.progress
  let used := p.queue.used
  let sessions := p.load.sim.registry.size
  let sim := { p.load.sim with
    metrics := (p.load.sim.metrics.queueDepth used).activeSessions sessions }
  { p with
    load := { p.load with sim }
    reporter := .waiting (p.instant + p.settings.reportInterval) }.note line

/-- Makes a move; one that is not possible changes nothing. -/
def perform (m : Move) (p : Pipeline) : Pipeline :=
  if !p.enabled m then p
  else
    match m with
    | .close => p.onClose
    | .load m => { p with load := p.load.perform m }
    | .outlet m =>
      let (outlets, sim) := p.outlets.perform m p.load.sim p.load.instant
      { p with outlets, load := { p.load with sim } }
    | .armSweeper => p.onArmSweeper
    | .sweep => p.onSweep
    | .endSweeper => { p with sweeper := .ended }.note .sweeperStopped
    | .armReporter => p.onArmReporter
    | .report => p.onReport
    | .endReporter => { p with reporter := .ended }

/-- The move that comes next: the shutdown first, then the load, the sink workers and the
background. -/
def choose (p : Pipeline) : Option Move :=
  if p.canClose then some .close
  else
    (p.load.choose.map Move.load).or <|
      ((p.outlets.choose p.queue p.instant).map Move.outlet).or <|
        [Move.armSweeper, .sweep, .endSweeper, .armReporter, .report, .endReporter].find? p.enabled

def Routine.deadline (dismissed : Bool) : Routine → Option Instant
  | .waiting due => if dismissed then none else some (wholeMs due)
  | _ => none

/-- When the shutdown goes on by the passing of time. -/
def closingDeadline (p : Pipeline) : Option Instant :=
  match p.closing with
  | .joining t | .pausing _ t | .awaiting _ t => some (wholeMs t)
  | _ => none

def deadline (p : Pipeline) : Option Instant :=
  sooner p.closingDeadline <| sooner p.load.deadline <| sooner p.outlets.deadline <|
    sooner (Routine.deadline p.dismissed p.sweeper) (Routine.deadline p.dismissed p.reporter)

def clockwork : Clockwork Pipeline Move where
  choose := choose
  perform := perform
  instant := instant
  setInstant t p := { p with load := { p.load with instant := t } }
  deadline := deadline

end Pipeline

end ShopTraffic
