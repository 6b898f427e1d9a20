import ShopTraffic.CommandLine.Program

/-!
The program itself. It reads its surroundings, lets a run keep up with the clock, and prints; what
is to be done is decided elsewhere.
-/

namespace ShopTraffic.CommandLine

def knownVariables : List String :=
  let named (group : String) (names : List String) : List String :=
    names.map fun n => s!"CLICKSTREAM_{group}{n.toUpper}"
  ["CLICKSTREAM_ENV", "RUST_LOG"] ++ named "" ["service_name", "environment"] ++
    named "GENERATOR__" (GeneratorSettings.listed.map (·.name)) ++
    named "KAFKA__" (KafkaSettings.listed.map (·.name)) ++
    named "OBSERVABILITY__" (ObservabilitySettings.listed.map (·.name))

def readSettingsFile (directory name : String) : IO (Option (String × String)) := do
  try
    return some (s!"{name}.toml", ← IO.FS.readFile s!"{directory}/{name}.toml")
  catch _ => return none

def readSurroundings : IO Surroundings := do
  let environment ← knownVariables.filterMapM fun v => do return (← IO.getEnv v).map (v, ·)
  let around : Surroundings := { files := [], environment }
  let directory := (← IO.getEnv "CONFIG_DIR").getD "config"
  let files ← ["default", around.place].filterMapM (readSettingsFile directory)
  return { around with files }

/-- The wall clock in milliseconds, read off a new file. -/
def readWallClock : IO Time := do
  let (_, path) ← IO.FS.createTempFile
  let now := (← path.metadata).modified
  IO.FS.removeFile path
  return Int64.ofIntClamp (now.sec * 1000 + now.nsec.toNat / 1000000)

/-- The number of processors, or four where it is not known. -/
def countProcessors : IO Nat := do
  try
    let info ← IO.FS.readFile "/proc/cpuinfo"
    return max 1 ((info.splitOn "\n").countP (·.startsWith "processor"))
  catch _ => return 4

def readCircumstances : IO Circumstances := do
  let bytes ← IO.getRandomBytes 8
  return { wall := ← readWallClock, processors := ← countProcessors, signal := none
           uptime := ← IO.monoNanosNow
           seed := bytes.foldl (fun n b => n * 256 + b.toUInt64) 0 }

def lineOf (format : LogFormat) (r : Record) : String :=
  match format with
  | .json => (Json.record [("fields", .record r.fields), ("level", .text r.level.name)]).render
  | .pretty => s!"{r.level.name} {(Json.record r.fields).render}"

/-- Prints what has been reported and is to be written, the latest first. -/
def printNotices (s : Settings) (around : Surroundings) (latestFirst : List Notice) : IO Unit := do
  let format := LogFormat.ofText s.observability.logFormat
  for r in writtenLog (thresholdFor s around) latestFirst.reverse do
    IO.println (lineOf format r)

def printReported (s : Settings) (around : Surroundings) (p : Pipeline) : IO Pipeline := do
  printNotices s around p.load.sim.notices
  return { p with load := { p.load with sim := { p.load.sim with notices := [] } } }

/-- Lets a pipeline keep up with the clock until an instant, or for ever. -/
partial def keepUp (s : Settings) (around : Surroundings) (begun : Nat) (wall : Time)
    (stop : Option Instant) (p : Pipeline) : IO Pipeline := do
  let elapsed := (← IO.monoNanosNow) - begun
  let now := wall + Int64.ofNat (elapsed / nanosPerMs)
  let p := { p with load := { p.load with wall := now } }
  match stop with
  | some t => if t ≤ elapsed then return goOn p t
  | none => pure ()
  let p ← printReported s around (goOn p elapsed)
  IO.sleep 1
  keepUp s around begun wall stop p

def leave (e : Exit) : IO UInt32 := do
  IO.print e.output
  match e.error with
  | some reason => IO.eprintln s!"Error: {reason}"
  | none => pure ()
  return e.code.toUInt32

/-- Prints what a command leaves behind, with the last lines of the log. -/
def leaveLegacy (s : Settings) (around : Surroundings) (l : Legacy) : IO UInt32 := do
  printNotices s around l.notices.reverse
  let code ← leave (exitAfter s around l)
  printNotices s around [.observingEnded]
  return code

def leaveBeyondLimits : IO UInt32 := do
  IO.eprintln "Error: beyond limits"
  return 101

def runInTime (s : Settings) (around : Surroundings) (duration : Option Nat) : IO UInt32 := do
  let c ← readCircumstances
  match beginRun s duration c with
  | .error (.refused l) => leaveLegacy s around l
  | .error .beyondLimits => leaveBeyondLimits
  | .ok p =>
    let p ← keepUp s around (← IO.monoNanosNow) c.wall (duration.map (· * nanosPerSec)) p
    match endRun (duration.elim p fun d => p.note (.durationOver d)) with
    | some l => leaveLegacy s around l
    | none => leaveBeyondLimits

end ShopTraffic.CommandLine

open ShopTraffic ShopTraffic.CommandLine in
def main (args : List String) : IO UInt32 := do
  match Arguments.read args with
  | .error c =>
    if c.exit.code ≠ 0 then IO.eprint (helpText c.command)
    leave c.exit
  | .ok a =>
    let around ← readSurroundings
    match effectiveSettings a around with
    | .error _ => leave unloadedExit
    | .ok s =>
      printNotices s around (openingNotices s).reverse
      match a.command with
      | .table => leaveLegacy s around (showTable .standard)
      | .run o => runInTime s around o.duration
