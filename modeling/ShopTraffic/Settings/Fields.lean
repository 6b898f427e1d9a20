import ShopTraffic.Json.Value
import ShopTraffic.Settings.Settings

/-!
The settings by name. Each setting has a kind, which says what values it can have; a source of
settings says how it writes values of each kind, and the names need be listed only once.
-/

namespace ShopTraffic

/-- The kinds of settings. Numbers have an upper bound. -/
inductive SettingKind
  | number (bound : Nat)
  | optionalNumber (bound : Nat)
  | text
  | flag
  | sink
  deriving DecidableEq, Repr

abbrev SettingKind.Value : SettingKind → Type
  | number _ => Nat
  | optionalNumber _ => Option Nat
  | text => String
  | flag => Bool
  | sink => SinkKind

structure Setting (γ : Type) where
  name : String
  kind : SettingKind
  set : γ → kind.Value → γ

/-- The largest numbers of 64 and of 16 bits. -/
def bound64 : Nat := 2 ^ (64 : Nat) - 1
def bound16 : Nat := 2 ^ (16 : Nat) - 1

def GeneratorSettings.listed : List (Setting GeneratorSettings) :=
  [⟨"target_rate", .number bound64, fun g v => { g with targetRate := v }⟩,
   ⟨"tick_interval_ms", .number bound64, fun g v => { g with tickMs := v }⟩,
   ⟨"workers", .optionalNumber bound64, fun g v => { g with workers := v }⟩,
   ⟨"initial_users", .number bound64, fun g v => { g with initialUsers := v }⟩,
   ⟨"session_ttl_secs", .number bound64, fun g v => { g with ttlSecs := v }⟩,
   ⟨"sweep_interval_secs", .number bound64, fun g v => { g with sweepSecs := v }⟩,
   ⟨"queue_capacity", .number bound64, fun g v => { g with queueCapacity := v }⟩,
   ⟨"sink_workers", .number bound64, fun g v => { g with sinkWorkers := v }⟩,
   ⟨"sink", .sink, fun g v => { g with sink := v }⟩,
   ⟨"drain_timeout_secs", .number bound64, fun g v => { g with drainSecs := v }⟩,
   ⟨"report_interval_secs", .number bound64, fun g v => { g with reportSecs := v }⟩,
   ⟨"seed", .optionalNumber bound64, fun g v => { g with seed := v }⟩]

def KafkaSettings.listed : List (Setting KafkaSettings) :=
  [⟨"brokers", .text, fun k v => { k with brokers := v }⟩,
   ⟨"topic", .text, fun k v => { k with topic := v }⟩,
   ⟨"message_timeout_ms", .number bound64, fun k v => { k with messageTimeoutMs := v }⟩,
   ⟨"linger_ms", .number bound64, fun k v => { k with lingerMs := v }⟩]

def ObservabilitySettings.listed : List (Setting ObservabilitySettings) :=
  [⟨"log_level", .text, fun o v => { o with logLevel := v }⟩,
   ⟨"log_format", .text, fun o v => { o with logFormat := v }⟩,
   ⟨"metrics_enabled", .flag, fun o v => { o with metricsEnabled := v }⟩,
   ⟨"metrics_port", .number bound16, fun o v => { o with metricsPort := v }⟩]

/-- A part of a group as a source of type `ω` sees it: a name, and how the part is read. -/
structure Reading (ω γ : Type) where
  name : String
  read : ω → γ → Option γ

/-- A setting, read by what the source says of its kind. -/
def Setting.reading {ω γ : Type} (read : (k : SettingKind) → ω → Option k.Value) (s : Setting γ) :
    Reading ω γ :=
  ⟨s.name, fun v g => (read s.kind v).map (s.set g)⟩

/-- All settings, for a source that can read single values and groups. -/
def Settings.readings {ω : Type} (read : (k : SettingKind) → ω → Option k.Value)
    (group : {γ : Type} → List (Reading ω γ) → ω → γ → Option γ) : List (Reading ω Settings) :=
  [⟨"service_name", fun v s => (read .text v).map fun x => { s with serviceName := x }⟩,
   ⟨"environment", fun v s => (read .text v).map fun x => { s with environment := x }⟩,
   ⟨"generator", fun v s =>
      (group (GeneratorSettings.listed.map (·.reading read)) v {}).map fun x =>
        { s with generator := x }⟩,
   ⟨"kafka", fun v s =>
      (group (KafkaSettings.listed.map (·.reading read)) v {}).map fun x => { s with kafka := x }⟩,
   ⟨"observability", fun v s =>
      (group (ObservabilitySettings.listed.map (·.reading read)) v {}).map fun x =>
        { s with observability := x }⟩]

/-- Reads the parts that an object has; those that it lacks stay as they are. -/
def readNamed {ω γ : Type} (members : List (String × ω)) :
    List (Reading ω γ) → γ → Option γ
  | [], g => some g
  | r :: rs, g =>
    match members.lookup r.name with
    | some v => r.read v g >>= readNamed members rs
    | none => readNamed members rs g

/-- Reads parts by their place; there may be fewer values than parts, but not more. -/
def readPlaced {ω γ : Type} : List (Reading ω γ) → List ω → γ → Option γ
  | _, [], g => some g
  | [], _ :: _, _ => none
  | r :: rs, v :: vs, g => r.read v g >>= readPlaced rs vs

namespace Json

/-- A value of a kind, without any conversion. -/
def setting? : (k : SettingKind) → Json → Option k.Value
  | .number bound, .number (.integer i) =>
    if 0 ≤ i ∧ i ≤ bound then some (i.toNat : Nat) else none
  | .optionalNumber _, .null => some none
  | .optionalNumber bound, .number (.integer i) =>
    if 0 ≤ i ∧ i ≤ bound then some (some i.toNat) else none
  | .text, .text s => some s
  | .flag, .bool b => some b
  | .sink, v => v.tag? >>= SinkKind.ofName?
  | _, _ => none

/-- A group of settings: an object, or a list of values in the order of the settings. -/
def group? {γ : Type} (rs : List (Reading Json γ)) : Json → γ → Option γ
  | .record ms, g => readNamed ms rs g
  | .list vs, g => readPlaced rs vs g
  | _, _ => none

def generatorSettings? (j : Json) : Option GeneratorSettings :=
  group? (GeneratorSettings.listed.map (·.reading setting?)) j {}

def kafkaSettings? (j : Json) : Option KafkaSettings :=
  group? (KafkaSettings.listed.map (·.reading setting?)) j {}

def settings? (j : Json) : Option Settings := group? (Settings.readings setting? group?) j {}

end Json

end ShopTraffic
