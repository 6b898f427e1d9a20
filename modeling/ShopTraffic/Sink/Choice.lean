import ShopTraffic.Settings.Settings
import ShopTraffic.Sink.Sink

/-!
The sink that the settings ask for. The client of the message broker checks its settings when it is
set up; brokers need not be reachable then.
-/

namespace ShopTraffic

def KafkaSettings.longestTimeout : Nat := 2147483647

def KafkaSettings.longestLinger : Nat := 900000

/-- The client takes the settings: both times are within their bounds, and messages are not held
back for longer than a delivery may take. No timeout at all is written as zero. -/
def KafkaSettings.isAccepted (k : KafkaSettings) : Bool :=
  k.messageTimeoutMs ≤ longestTimeout && k.lingerMs ≤ longestLinger &&
    (k.messageTimeoutMs = 0 || k.lingerMs < k.messageTimeoutMs)

namespace Sink

/-- A sink that sends to a broker, with what its set-up reports. No broker answers here, so a
publication never ends; as long as nothing was published there is nothing to flush. -/
def kafka (k : KafkaSettings) : Except Failure (Sink × List Notice) :=
  if k.isAccepted then
    .ok ({ publish := fun _ => .never }, [.producerReady k.brokers k.topic])
  else .error (.kafka "创建生产者失败")

def ofKind (k : KafkaSettings) : SinkKind → Except Failure (Sink × List Notice)
  | .kafka => kafka k
  | .log => .ok (log, [])
  | .discard => .ok (discard, [])

end Sink

end ShopTraffic
