import ShopTraffic.Sink.Sink

/-!
What can go wrong at the edges of the program: settings, the message broker, written forms.
-/

namespace ShopTraffic

inductive Failure
  | settings (reason : String)
  | invalidSetting (field message : String)
  | kafka (reason : String)
  | serialization (reason : String)
  | internal (reason : String)
  deriving DecidableEq, Repr

namespace Failure

def code : Failure → String
  | settings _ => "CONFIG_ERROR"
  | invalidSetting _ _ => "INVALID_CONFIG"
  | kafka _ => "KAFKA_ERROR"
  | serialization _ => "SERIALIZATION_ERROR"
  | internal _ => "INTERNAL_ERROR"

/-- Trying again can help only when the broker was at fault. -/
def isRetryable : Failure → Bool
  | kafka _ => true
  | _ => false

def message : Failure → String
  | settings reason => s!"配置加载失败: {reason}"
  | invalidSetting field message => s!"无效的配置项: {field} - {message}"
  | kafka reason => s!"Kafka 错误: {reason}"
  | serialization reason => s!"序列化失败: {reason}"
  | internal reason => s!"内部错误: {reason}"

def toSinkError : Failure → SinkError
  | serialization reason => .serialization reason
  | f => .publish f.message

end Failure

end ShopTraffic
