import ShopTraffic.Behaviour.Reach
import ShopTraffic.CommandLine.Arguments
import ShopTraffic.Metrics.Summary
import ShopTraffic.Pipeline.Life
import ShopTraffic.Sink.Choice
import ShopTraffic.Text

/-!
What the commands do. A run begins, is left to itself until its time is over or it is told to stop,
and ends with its counters as output. The other command shows the behaviour of visitors as a table.
-/

namespace ShopTraffic.CommandLine

/-- What a command leaves behind: its output, and why it failed if it did, the outermost reason
first. What was reported stands in the order of time. -/
structure Legacy where
  output : String := ""
  reasons : List String := []
  notices : List Notice := []

structure Circumstances where
  wall : Time
  /-- A seed where the settings have none. -/
  seed : UInt64
  processors : Nat
  /-- What the clock of the machine shows. -/
  uptime : Instant := nanosPerSec
  /-- When the run is told to stop, if ever. -/
  signal : Option Instant

inductive Setback
  | refused (legacy : Legacy)
  | beyondLimits

def beginWith (s : Settings) (duration : Option Nat) (c : Circumstances) (sink : Sink)
    (notices : List Notice) : Except Setback Pipeline :=
  match Pipeline.build s.generator c.seed c.processors .standard sink c.wall c.uptime with
  | .error .beyondLimits => .error .beyondLimits
  | .error (.failure f) =>
    .error (.refused { reasons := ["组装流水线失败", f.message], notices })
  | .ok p =>
    match (notices.foldl Pipeline.note p).start with
    | .error .beyondLimits => .error .beyondLimits
    | .error e => .error (.refused { reasons := ["启动调度器失败", e.message], notices })
    | .ok (p, plan) =>
      .ok (p.note (.runStarted s.environment s.generator.sink.name plan.rate plan.effectiveRate
        duration))

/-- Begins a run: the sink is set up before all else. -/
def beginRun (s : Settings) (duration : Option Nat) (c : Circumstances) : Except Setback Pipeline :=
  match Sink.ofKind s.kafka s.generator.sink with
  | .error f => .error (.refused { reasons := ["创建 Kafka sink 失败", f.toSinkError.message] })
  | .ok (sink, notices) => beginWith s duration c sink notices

/-- Goes on until an instant; what is due at that very instant is not done any more. -/
def goOn (p : Pipeline) (stop : Instant) : Pipeline :=
  if stop ≤ p.instant then p else p.advance (stop - p.instant)

/-- Goes on until the time is over or the signal comes, whichever is first; if neither ever happens
the run has no end. -/
def waitForEnd (duration : Option Nat) (signal : Option Instant) (p : Pipeline) : Option Pipeline :=
  match duration, signal with
  | none, none => none
  | none, some t => some ((goOn p t).note .signalReceived)
  | some d, none => some ((goOn p (d * nanosPerSec)).note (.durationOver d))
  | some d, some t =>
    if d * nanosPerSec ≤ t then some ((goOn p (d * nanosPerSec)).note (.durationOver d))
    else some ((goOn p t).note .signalReceived)

def endRun (p : Pipeline) : Option Legacy :=
  p.shutdown.map fun p =>
    let r := p.report
    let p := if r.drained then p else p.note (.runNotDrained r.dropped)
    { output := r.metrics.pretty ++ "\n", notices := p.load.sim.notices.reverse }

/-- A whole run; there is none if it has no end or is beyond all limits. -/
def run (s : Settings) (duration : Option Nat) (c : Circumstances) : Option Legacy :=
  match beginRun s duration c with
  | .error (.refused l) => some l
  | .error .beyondLimits => none
  | .ok p => waitForEnd duration c.signal p >>= endRun

/-! ### The table -/

def tableLine (state event next weight : String) : String :=
  s!"{Text.padded 14 state} {Text.padded 20 event} {Text.padded 14 next} {Text.indented 6 weight}\n"

def rule : String := String.ofList (List.replicate 58 '-') ++ "\n"

def stateLines (s : State) (ts : List Transition) : String :=
  if ts.isEmpty then tableLine s.name "-" "-" "-"
  else
    String.join <| ts.map fun t =>
      tableLine s.name t.action.name ((t.target.map State.name).getD "(prev)")
        (Decimal.fixed 2 t.weight)

/-- Shows a table of behaviour; states from which no visitor ever leaves are a failure. -/
def showTable (t : Table) : Legacy :=
  let body := "\n" ++ tableLine "from" "event" "next" "weight" ++ rule ++
    String.join (t.listed.map fun r => stateLines r.1 r.2) ++ rule
  let stuck := t.statesWithoutExit
  if stuck.isEmpty then { output := body ++ "所有状态均可到达 exit\n\n" }
  else
    let names := String.intercalate ", " (stuck.map State.name)
    { output := body, reasons := [s!"以下状态无法到达 exit: [{names}]"] }

def Command.perform (s : Settings) (c : Circumstances) : Command → Option Legacy
  | .run o => CommandLine.run s o.duration c
  | .table => some (showTable .standard)

end ShopTraffic.CommandLine
