import ShopTraffic.Pipeline.Machine

/-!
The life of a pipeline: it is built from settings, started once, left to itself for some time and
shut down.
-/

namespace ShopTraffic

inductive BuildError
  | failure (reason : Failure)
  | beyondLimits
  deriving DecidableEq, Repr

namespace Pipeline

/-- Puts all parts together; nothing runs yet. A seed of its own is used where the settings have
none, and a worker for each processor where they do not say how many. If nothing is known of the
machine, its clock has run for a second. -/
def build (g : GeneratorSettings) (fallbackSeed : UInt64) (processors : Nat) (table : Table)
    (sink : Sink) (wall : Time) (uptime : Instant := nanosPerSec) : Except BuildError Pipeline :=
  match g.validate with
  | .error f => .error (.failure f)
  | .ok () =>
    if g.queueCapacity > maxSlots then .error .beyondLimits
    else
      let seed := (g.seed.map Nat.toUInt64).getD fallbackSeed
      let sim := Simulation.create seed g.ttl g.queueCapacity table
      .ok {
        settings := g
        uptime
        load := { sim := (sim.ensureVisitors g.initialUsers).1, wall, tick := g.tick
                  workerCount := max 1 (g.workerCount processors) }
        outlets := { sink } }

/-- Starts the load, and behind it the sink workers and the background. -/
def start (p : Pipeline) : Except StartError (Pipeline × Plan) :=
  match p.load.start p.settings.targetRate with
  | .error e => .error e
  | .ok (load, plan) =>
    let p := { p with
      load, outlets := p.outlets.start p.settings.sinkWorkers
      sweeper := .fresh, reporter := .fresh }
    .ok (p.note (.pipelineStarted p.settings.sinkWorkers p.settings.queueCapacity
      p.load.sim.visitors.size), plan)

def stop (p : Pipeline) : Pipeline := { p with load := p.load.stop }

def advance (p : Pipeline) (span : Instant) : Pipeline :=
  clockwork.run (fun _ => false) (some (p.instant + span)) Clockwork.patience p

structure Report where
  drained : Bool
  dropped : Nat
  steps : Nat
  metrics : Snapshot

/-- The seconds that the clock can count end here. -/
def lastSecond : Nat := 2 ^ (63 : Nat)

/-- Asks for the shutdown; no deadline can be beyond the range of the clock. -/
def beginClosing (p : Pipeline) : Option Pipeline :=
  if p.uptime + p.instant + p.settings.drainTimeout ≥ lastSecond * nanosPerSec then none
  else
    some { p.stop with closing := .joining (p.instant + p.settings.drainTimeout) }

def report (p : Pipeline) : Report :=
  { drained := p.findings.drained, dropped := p.findings.dropped
    steps := p.load.stats.steps, metrics := p.metrics.counts }

/-- Shuts the pipeline down and waits until all is over. -/
def shutdown (p : Pipeline) : Option Pipeline :=
  p.beginClosing.map <| clockwork.run (·.closing = .closed) none Clockwork.patience

end Pipeline

end ShopTraffic
