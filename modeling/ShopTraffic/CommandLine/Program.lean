import ShopTraffic.CommandLine.Help
import ShopTraffic.CommandLine.Run
import ShopTraffic.Log.Filter
import ShopTraffic.Settings.Layers

/-!
The program from its arguments to its exit: arguments, settings, log, command. Whatever fails first
ends the program.
-/

namespace ShopTraffic.CommandLine

/-- How the program ends. The log has the lines that are written; a failure is known by its
outermost reason. -/
structure Exit where
  code : Nat
  output : String := ""
  format : LogFormat := .pretty
  log : List Record := []
  error : Option String := none

def Exit.jsonLog (e : Exit) : List Record := if e.format = .json then e.log else []

def serviceName : String := programName

/-- Questions are answered on the output; a complaint about the arguments is a failed use. -/
def Complaint.exit (c : Complaint) : Exit :=
  match c.refusal with
  | .helpAsked => { code := 0, output := helpText c.command }
  | .versionAsked => { code := 0, output := versionText c.command }
  | _ => { code := 2 }

def openingNotices (s : Settings) : List Notice :=
  let o := s.observability
  .observing s.serviceName o.logFormat o.metricsEnabled o.metricsPort ::
    (if o.metricsEnabled then [.metricsServed o.metricsPort] else [])

def writtenLog (t : Threshold) (ns : List Notice) : List Record :=
  (ns.map Notice.record).filter fun r => t.admits r.level

def effectiveSettings (a : Arguments) (around : Surroundings) : Except Failure Settings :=
  (around.settings serviceName).map a.apply

/-- From which level on lines of the log are written: the environment goes before the settings. -/
def thresholdFor (s : Settings) (around : Surroundings) : Threshold :=
  .choose (around.environment.lookup "RUST_LOG") s.observability.logLevel

/-- The exit when the settings cannot be loaded; the log has not been set up by then. -/
def unloadedExit : Exit := { code := 1, error := some "加载配置失败" }

def exitAfter (s : Settings) (around : Surroundings) (l : Legacy) : Exit :=
  { code := if l.reasons.isEmpty then 0 else 1
    output := l.output
    format := .ofText s.observability.logFormat
    log := writtenLog (thresholdFor s around) (openingNotices s ++ l.notices ++ [.observingEnded])
    error := l.reasons.head? }

/-- The whole program; there is no exit if a run has no end or is beyond all limits. -/
def program (args : List String) (around : Surroundings) (c : Circumstances) : Option Exit :=
  match Arguments.read args with
  | .error complaint => some complaint.exit
  | .ok a =>
    match effectiveSettings a around with
    | .error _ => some unloadedExit
    | .ok s => (a.command.perform s c).map (exitAfter s around)

end ShopTraffic.CommandLine
