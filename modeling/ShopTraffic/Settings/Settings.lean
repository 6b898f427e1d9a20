import ShopTraffic.Clockwork
import ShopTraffic.Settings.Failure
import ShopTraffic.Text

/-!
The settings of the program, their default values, and the check that a run needs. A rate, a span or
a size of zero would make the run idle or stand still for ever, so it is refused beforehand.
-/

namespace ShopTraffic

inductive SinkKind
  | kafka | log | discard
  deriving DecidableEq, Repr, Inhabited

namespace SinkKind

def all : List SinkKind := [kafka, log, discard]

def name : SinkKind → String
  | kafka => "kafka"
  | log => "log"
  | discard => "discard"

def ofName? (s : String) : Option SinkKind := all.find? (·.name == s)

/-- Reads a name in capital or small letters; the message of the error quotes it in small ones. -/
def parse (s : String) : Except String SinkKind :=
  match ofName? (Text.lowered s) with
  | some k => .ok k
  | none => .error s!"未知的 sink 类型: {Text.lowered s}（可选 kafka, log, discard）"

end SinkKind

structure GeneratorSettings where
  targetRate : Nat := 20000
  tickMs : Nat := 10
  workers : Option Nat := none
  initialUsers : Nat := 40000
  ttlSecs : Nat := 1800
  sweepSecs : Nat := 2
  queueCapacity : Nat := 100000
  sinkWorkers : Nat := 4
  sink : SinkKind := .kafka
  drainSecs : Nat := 5
  reportSecs : Nat := 1
  seed : Option Nat := none
  deriving DecidableEq, Repr, Inhabited

structure KafkaSettings where
  brokers : String := "localhost:9092"
  topic : String := "user_events"
  messageTimeoutMs : Nat := 5000
  lingerMs : Nat := 5
  deriving DecidableEq, Repr, Inhabited

structure ObservabilitySettings where
  logLevel : String := "info"
  logFormat : String := "pretty"
  metricsEnabled : Bool := false
  metricsPort : Nat := 9090
  deriving DecidableEq, Repr, Inhabited

structure Settings where
  serviceName : String := "clickstream-generator"
  environment : String := "development"
  generator : GeneratorSettings := {}
  kafka : KafkaSettings := {}
  observability : ObservabilitySettings := {}
  deriving DecidableEq, Repr, Inhabited

namespace GeneratorSettings

def tick (g : GeneratorSettings) : Instant := g.tickMs * nanosPerMs

def sweepInterval (g : GeneratorSettings) : Instant := g.sweepSecs * nanosPerSec

def drainTimeout (g : GeneratorSettings) : Instant := g.drainSecs * nanosPerSec

def reportInterval (g : GeneratorSettings) : Instant := g.reportSecs * nanosPerSec

/-- The time to live of a session in milliseconds, as far as 64 bits go. -/
def ttl (g : GeneratorSettings) : Time := Int64.ofIntClamp (g.ttlSecs * 1000 : Nat)

/-- The number of workers; without one that is set, a worker for each processor. -/
def workerCount (g : GeneratorSettings) (processors : Nat) : Nat := g.workers.getD processors

/-- The first setting that no run can work with. -/
def validate (g : GeneratorSettings) : Except Failure Unit :=
  if g.targetRate = 0 then .error (.invalidSetting "generator.target_rate" "必须大于 0")
  else if g.tickMs = 0 ∨ g.tickMs > 1000 then
    .error (.invalidSetting "generator.tick_interval_ms" "必须在 1..=1000 之间")
  else if g.workers = some 0 then .error (.invalidSetting "generator.workers" "必须大于 0")
  else if g.queueCapacity = 0 then
    .error (.invalidSetting "generator.queue_capacity" "必须大于 0")
  else if g.sinkWorkers = 0 then .error (.invalidSetting "generator.sink_workers" "必须大于 0")
  else if g.ttlSecs = 0 ∨ g.sweepSecs = 0 then
    .error (.invalidSetting "generator.session_ttl_secs" "会话 TTL 与清理间隔必须大于 0")
  else if g.reportSecs = 0 then
    .error (.invalidSetting "generator.report_interval_secs" "必须大于 0")
  else .ok ()

end GeneratorSettings

def Settings.isProduction (s : Settings) : Bool := s.environment = "production"

end ShopTraffic
