import Std.Data.HashMap
import Std.Data.TreeMap
import ShopTraffic.Behaviour.State

/-!
Counters of a run. Each count is kept twice: in the run itself, where a snapshot of it can be taken,
and in the series that are exported for scraping.

Both have 64 bits. The counts of a run grow with the calls that are made, and are taken to stay
below `2 ^ 64`; an exported counter can be raised by any number at once, so it is cut down.
-/

namespace ShopTraffic

structure Snapshot where
  events : Nat := 0
  byAction : Std.TreeMap String Nat := ∅
  started : Nat := 0
  completed : Nat := 0
  transitions : Std.TreeMap String Nat := ∅
  errors : Std.TreeMap String Nat := ∅

inductive Counter
  | events (action : Action)
  | started
  | completed
  | transitions (previous next : State)
  | errors (kind : String)
  | steps
  deriving DecidableEq, Hashable, Repr

/-- What is exported: counters that were used, and gauges that were set. -/
structure Exported where
  counters : Std.HashMap Counter Nat := ∅
  queueDepth : Option Nat := none
  activeSessions : Option Nat := none

structure Metrics where
  counts : Snapshot := {}
  exported : Exported := {}

/-- One more under a key; a key that was not used before starts at zero. -/
def tally (m : Std.TreeMap String Nat) (key : String) : Std.TreeMap String Nat :=
  m.insert key (m.getD key 0 + 1)

def transitionKey (previous next : State) : String := s!"{previous.name} -> {next.name}"

namespace Snapshot

def totalErrors (s : Snapshot) : Nat := s.errors.foldl (fun n _ c => n + c) 0

def eventsOf (s : Snapshot) (a : Action) : Nat := s.byAction.getD a.name 0

def transitionCount (s : Snapshot) (previous next : State) : Nat :=
  s.transitions.getD (transitionKey previous next) 0

def summary (s : Snapshot) : String :=
  s!"events={s.events} sessions_started={s.started} sessions_completed={s.completed} " ++
    s!"errors={s.totalErrors}"

end Snapshot

namespace Exported

/-- Adds to an exported counter of 64 bits. -/
def add (x : Exported) (c : Counter) (n : Nat) : Exported :=
  { x with counters := x.counters.insert c ((x.counters.getD c 0 + n) % 2 ^ (64 : Nat)) }

end Exported

namespace Metrics

def event (m : Metrics) (a : Action) : Metrics :=
  { counts := { m.counts with
      events := m.counts.events + 1, byAction := tally m.counts.byAction a.name }
    exported := m.exported.add (.events a) 1 }

def started (m : Metrics) : Metrics :=
  { counts := { m.counts with started := m.counts.started + 1 }
    exported := m.exported.add .started 1 }

def completed (m : Metrics) : Metrics :=
  { counts := { m.counts with completed := m.counts.completed + 1 }
    exported := m.exported.add .completed 1 }

def completedTimes (m : Metrics) : Nat → Metrics
  | 0 => m
  | n + 1 => m.completed.completedTimes n

def transition (m : Metrics) (previous next : State) : Metrics :=
  { counts := { m.counts with
      transitions := tally m.counts.transitions (transitionKey previous next) }
    exported := m.exported.add (.transitions previous next) 1 }

def error (m : Metrics) (kind : String) : Metrics :=
  { counts := { m.counts with errors := tally m.counts.errors kind }
    exported := m.exported.add (.errors kind) 1 }

/-- Steps that were executed; they are only exported. -/
def steps (m : Metrics) (n : Nat) : Metrics := { m with exported := m.exported.add .steps n }

def queueDepth (m : Metrics) (n : Nat) : Metrics :=
  { m with exported := { m.exported with queueDepth := some n } }

def activeSessions (m : Metrics) (n : Nat) : Metrics :=
  { m with exported := { m.exported with activeSessions := some n } }

end Metrics

end ShopTraffic
