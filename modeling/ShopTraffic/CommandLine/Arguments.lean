import ShopTraffic.CommandLine.Grammar
import ShopTraffic.Decimal.Reading
import ShopTraffic.Settings.Fields

/-!
The command line of the program: options for all commands, the name of a command, and its own
options. What is given there goes before the settings.
-/

namespace ShopTraffic.CommandLine

structure CommonOptions where
  logLevel : Option String := none
  brokers : Option String := none
  deriving DecidableEq, Repr, Inhabited

structure RunOptions where
  targetRate : Option Nat := none
  workers : Option Nat := none
  sink : Option SinkKind := none
  duration : Option Nat := none
  seed : Option Nat := none
  deriving DecidableEq, Repr, Inhabited

inductive Command
  | run (options : RunOptions)
  | table
  deriving DecidableEq, Repr, Inhabited

structure Arguments where
  common : CommonOptions
  command : Command
  deriving DecidableEq, Repr, Inhabited

/-- A refusal, and the command that was being read. -/
structure Complaint where
  command : Option String
  refusal : Refusal
  deriving DecidableEq, Repr

def number? (s : String) : Option Nat := (Decimal.natural? s.toList).filter (· ≤ bound64)

def CommonOptions.knobs : List (Knob CommonOptions) :=
  [{ letter := some 'l', word := "log-level", help := "日志级别 (trace, debug, info, warn, error)"
     set := fun v o => some { o with logLevel := some v } },
   { word := "kafka-brokers", help := "Kafka brokers 地址"
     set := fun v o => some { o with brokers := some v } }]

def RunOptions.knobs : List (Knob RunOptions) :=
  [{ letter := some 'r', word := "target-rate", help := "目标速率（每秒 step 数）"
     set := fun v o => (number? v).map fun n => { o with targetRate := some n } },
   { letter := some 'w', word := "workers", help := "模拟 worker 数量，默认取 CPU 核数"
     set := fun v o => (number? v).map fun n => { o with workers := some n } },
   { letter := some 's', word := "sink", help := "输出目标：kafka, log, discard"
     set := fun v o => (SinkKind.parse v).toOption.map fun k => { o with sink := some k } },
   { letter := some 'd', word := "duration", help := "运行时长（秒），不指定则运行到收到关闭信号"
     set := fun v o => (number? v).map fun n => { o with duration := some n } },
   { word := "seed", help := "随机种子"
     set := fun v o => (number? v).map fun n => { o with seed := some n } }]

def commandHelp : List (String × String) :=
  [("run", "启动流量生成"), ("table", "打印迁移表和 exit 可达性检查"),
   ("help", "Print this message or the help of the given subcommand(s)")]

def commonGrammar : Grammar CommonOptions :=
  { knobs := CommonOptions.knobs, commands := commandHelp.map (·.1) }

def runGrammar : Grammar RunOptions := { knobs := RunOptions.knobs }

def tableGrammar : Grammar Unit := { knobs := [] }

/-- The command `help` takes the name of a command, or nothing. -/
def helpOn : List String → Complaint
  | [] => ⟨none, .helpAsked⟩
  | [name] => ⟨some name, if name ∈ commonGrammar.commands then .helpAsked else .unknownCommand⟩
  | _ => ⟨none, .unknownCommand⟩

def readCommand (name : String) (args : List String) : Except Refusal Command :=
  if name = "run" then (runGrammar.scan args { values := {} }).map fun r => .run r.1.values
  else (tableGrammar.scan args { values := () }).map fun _ => .table

/-- Reads the arguments behind the name of the program. A fault behind the name of a command is seen
before the last option in front of it is looked at. -/
def Arguments.read (args : List String) : Except Complaint Arguments :=
  match commonGrammar.scan args { values := {} } with
  | .error r => .error ⟨none, r⟩
  | .ok (p, none) => .error ⟨none, if p.given.isEmpty then .nothingGiven else .missingCommand⟩
  | .ok (p, some (name, rest)) =>
    if name = "help" then .error (helpOn rest)
    else
      match readCommand name rest, p.settle with
      | .error r, _ => .error ⟨some name, r⟩
      | .ok _, .error r => .error ⟨none, r⟩
      | .ok command, .ok p => .ok { common := p.values, command }

def CommonOptions.apply (o : CommonOptions) (s : Settings) : Settings :=
  { s with
    observability := { s.observability with logLevel := o.logLevel.getD s.observability.logLevel }
    kafka := { s.kafka with brokers := o.brokers.getD s.kafka.brokers } }

def RunOptions.apply (o : RunOptions) (g : GeneratorSettings) : GeneratorSettings :=
  { g with
    targetRate := o.targetRate.getD g.targetRate, workers := o.workers.or g.workers
    sink := o.sink.getD g.sink, seed := o.seed.or g.seed }

def Arguments.apply (a : Arguments) (s : Settings) : Settings :=
  let s := a.common.apply s
  match a.command with
  | .run o => { s with generator := o.apply s.generator }
  | .table => s

end ShopTraffic.CommandLine
