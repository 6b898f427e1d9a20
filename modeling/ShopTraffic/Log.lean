import ShopTraffic.Behaviour.State
import ShopTraffic.Json.Value

/-!
What the program reports while it runs. A notice says what happened; its record is the line of the
log: a level, a message and named values.
-/

namespace ShopTraffic

inductive Level
  | trace | debug | info | warn | error
  deriving DecidableEq, Repr

def Level.name : Level → String
  | trace => "TRACE"
  | debug => "DEBUG"
  | info => "INFO"
  | warn => "WARN"
  | error => "ERROR"

def Level.rank : Level → Nat
  | trace => 0
  | debug => 1
  | info => 2
  | warn => 3
  | error => 4

/-- A line of the log. Lines about events have a target of their own. -/
structure Record where
  level : Level
  target : Option String := none
  fields : Fields

inductive Notice
  | sessionReplaced (user session : String)
  | sessionsSwept (removed remaining : Nat)
  | sweeperStarted (intervalMs : Nat)
  | sweeperStopped
  | usersGrown (old new : Nat)
  | keywordUnmatched (keyword : String)
  | eventProduced (user : String) (action : Action) (previous next : State)
  | loadStarted (rate workers tickMs stepsPerTick batch effective : Nat)
  | loadRounded (rate effective : Nat)
  | loadStopping
  | taskFailed (reason : String)
  | tickerEnded (ticks : Nat)
  | workerEnded (worker : Nat)
  | pipelineStarted (sinkWorkers capacity users : Nat)
  | progress (events started completed errors steps sessions queued capacity : Nat) (lag : String)
  | workersLate
  | sinkFailed (reason : String)
  | sinkStuck
  | eventsDropped (count timeoutMs : Nat)
  | flushFailed (reason : String)
  | pipelineClosed (drained : Bool) (dropped steps : Nat) (summary : String)
  | eventLogged (wire : String)
  | publishFailed (worker : Nat) (event reason : String)
  | sinkEnded (worker published : Nat)
  | runStarted (environment sink : String) (rate effective : Nat) (duration : Option Nat)
  | durationOver (seconds : Nat)
  | signalReceived
  | runNotDrained (dropped : Nat)
  | producerReady (brokers topic : String)
  | observing (service format : String) (metrics : Bool) (metricsPort : Nat)
  | metricsServed (metricsPort : Nat)
  | observingEnded
  deriving DecidableEq, Repr

namespace Notice

def saying (level : Level) (message : String) (fields : List (String × Json)) : Record :=
  { level, fields := Fields.ofList (("message", .text message) :: fields) }

def record : Notice → Record
  | sessionReplaced user session =>
    saying .debug "会话已过期，重新创建" [("user_id", .text user), ("session_id", .text session)]
  | sessionsSwept removed remaining =>
    saying .debug "已清理过期会话" [("removed", .ofNat removed), ("remaining", .ofNat remaining)]
  | sweeperStarted ms => saying .info "会话清理任务已启动" [("interval_ms", .ofNat ms)]
  | sweeperStopped => saying .info "会话清理任务已停止" []
  | usersGrown old new =>
    saying .debug "用户池已扩容" [("from", .ofNat old), ("to", .ofNat new)]
  | keywordUnmatched keyword => saying .debug "搜索词未匹配到商品" [("keyword", .text keyword)]
  | eventProduced user action previous next =>
    saying .trace "生成事件" [("user_id", .text user), ("event_type", .text action.name),
      ("from", .text previous.name), ("to", .text next.name)]
  | loadStarted rate workers tickMs stepsPerTick batch effective =>
    saying .info "负载调度器已启动" [("target_rate", .ofNat rate), ("workers", .ofNat workers),
      ("tick_ms", .ofNat tickMs), ("steps_per_tick", .ofNat stepsPerTick),
      ("ticket_batch", .ofNat batch), ("effective_rate", .ofNat effective)]
  | loadRounded rate effective =>
    saying .debug "取整后的实际速率与目标不同"
      [("target_rate", .ofNat rate), ("effective_rate", .ofNat effective)]
  | loadStopping => saying .info "负载调度器停止中" []
  | taskFailed reason => saying .warn "调度任务异常退出" [("error", .text reason)]
  | tickerEnded ticks => saying .debug "tick 循环已退出" [("ticks", .ofNat ticks)]
  | workerEnded worker => saying .debug "调度 worker 已退出" [("worker_id", .ofNat worker)]
  | pipelineStarted sinkWorkers capacity users =>
    saying .info "流水线已启动" [("sink_workers", .ofNat sinkWorkers),
      ("queue_capacity", .ofNat capacity), ("initial_users", .ofNat users)]
  | progress events started completed errors steps sessions queued capacity lag =>
    saying .info "运行指标" [("events", .ofNat events), ("sessions_started", .ofNat started),
      ("sessions_completed", .ofNat completed), ("errors", .ofNat errors),
      ("steps", .ofNat steps), ("active_sessions", .ofNat sessions),
      ("queue_lag", .text s!"{queued}/{capacity}"), ("lag_pct", .text lag)]
  | workersLate => saying .warn "模拟 worker 未在排空超时内结束，输出队列可能已满" []
  | sinkFailed reason => saying .error "sink worker 异常退出" [("error", .text reason)]
  | sinkStuck => saying .warn "sink worker 卡在发布中，强制终止" []
  | eventsDropped count timeoutMs =>
    saying .warn "排空超时，丢弃剩余事件"
      [("dropped", .ofNat count), ("timeout_ms", .ofNat timeoutMs)]
  | flushFailed reason => saying .warn "刷新 sink 失败" [("error", .text reason)]
  | pipelineClosed drained dropped steps summary =>
    saying .info "流水线已关闭" [("drained", .bool drained), ("dropped", .ofNat dropped),
      ("steps", .ofNat steps), ("summary", .text summary)]
  | eventLogged wire =>
    { level := .debug, target := some "clickstream::events", fields := [("event", .text wire)] }
  | publishFailed worker event reason =>
    saying .warn "事件发布失败" [("worker", .ofNat worker), ("event_id", .text event),
      ("error", .text reason)]
  | sinkEnded worker published =>
    saying .debug "sink worker 已退出" [("worker", .ofNat worker), ("published", .ofNat published)]
  | runStarted environment sink rate effective duration =>
    saying .info "流量生成已启动，按 Ctrl+C 停止" [("environment", .text environment),
      ("sink", .text sink), ("target_rate", .ofNat rate), ("effective_rate", .ofNat effective),
      ("duration_secs", .text (match duration with
        | some d => s!"Some({d})"
        | none => "None"))]
  | durationOver seconds => saying .info "到达运行时长" [("secs", .ofNat seconds)]
  | signalReceived => saying .info "收到关闭信号，正在停止..." []
  | runNotDrained dropped => saying .warn "关闭时输出队列未能排空" [("dropped", .ofNat dropped)]
  | producerReady brokers topic =>
    saying .info "Kafka 生产者已初始化" [("brokers", .text brokers), ("topic", .text topic)]
  | observing service format metrics metricsPort =>
    saying .info "Observability initialized" [("service", .text service),
      ("log_format", .text format), ("metrics_enabled", .bool metrics),
      ("metrics_port", .ofNat metricsPort)]
  | metricsServed metricsPort =>
    saying .info s!"Metrics server listening on 0.0.0.0:{metricsPort}" []
  | observingEnded => saying .info "Shutting down observability..." []

end Notice

end ShopTraffic
