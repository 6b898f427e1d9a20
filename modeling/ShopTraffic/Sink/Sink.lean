import ShopTraffic.Clockwork
import ShopTraffic.Event.Wire
import ShopTraffic.Log

/-!
Where events go. A sink is known by what it does with an event: it accepts or refuses it after some
time, or never answers, or breaks the task that has called it.
-/

namespace ShopTraffic

inductive SinkError
  | serialization (reason : String)
  | publish (reason : String)
  deriving DecidableEq, Repr

namespace SinkError

def kind : SinkError → String
  | serialization _ => "serialization"
  | publish _ => "publish"

def message : SinkError → String
  | serialization reason => s!"事件序列化失败: {reason}"
  | publish reason => s!"事件发布失败: {reason}"

end SinkError

inductive Publication
  | answers (delay : Instant) (result : Except SinkError Unit)
  | never
  | breaks (reason : String)

structure Sink where
  publish : Event → Publication
  /-- The answer when what is still held back is to be pushed out. -/
  flush : Except SinkError Unit := .ok ()
  /-- What a sink reports of an event that it is given. -/
  notices : Event → List Notice := fun _ => []

namespace Sink

/-- Takes every event and forgets it. -/
def discard : Sink := { publish := fun _ => .answers 0 (.ok ()) }

/-- Writes every event to the log. -/
def log : Sink :=
  { publish := fun _ => .answers 0 (.ok ()), notices := fun e => [.eventLogged e.wire] }

end Sink

end ShopTraffic
