import ShopTraffic.Decimal.Shortest
import ShopTraffic.Metrics.Counters

/-!
The text of the exported series, one line each: a name, labels with their values, and the value.
-/

namespace ShopTraffic

namespace Counter

def name : Counter → String
  | events _ => "clickstream_events_total"
  | started => "clickstream_sessions_started_total"
  | completed => "clickstream_sessions_completed_total"
  | transitions _ _ => "clickstream_state_transitions_total"
  | errors _ => "clickstream_errors_total"
  | steps => "clickstream_steps_total"

def labels : Counter → List (String × String)
  | events a => [("event_type", a.name)]
  | transitions previous next => [("from", previous.name), ("to", next.name)]
  | errors kind => [("kind", kind)]
  | started | completed | steps => []

end Counter

namespace Exported

/-- A label value with line ends, quotes and backslashes escaped. A backslash is held back until it
is known that the next character needs none. -/
def escapedLabel (held : Bool) : List Char → List Char
  | [] => if held then ['\\', '\\'] else []
  | '\n' :: cs => '\\' :: 'n' :: escapedLabel held cs
  | '"' :: cs => '\\' :: '"' :: escapedLabel false cs
  | '\\' :: cs => (if held then ['\\', '\\'] else []) ++ escapedLabel (!held) cs
  | c :: cs => (if held then ['\\', '\\'] else []) ++ c :: escapedLabel false cs

def label (l : String × String) : String :=
  l.1 ++ "=\"" ++ String.ofList (escapedLabel false l.2.toList) ++ "\""

def seriesText (name : String) (labels : List (String × String)) : String :=
  if labels.isEmpty then name
  else name ++ "\x7b" ++ String.intercalate "," (labels.map label) ++ "\x7d"

def gaugeLine (name : String) : Option Nat → List String
  | none => []
  | some n => [s!"{name} {Decimal.plain (Float.ofNat n)}"]

/-- The lines of all series, in no particular order. -/
def lines (x : Exported) : List String :=
  (x.counters.toList.map fun c => s!"{seriesText c.1.name c.1.labels} {c.2}") ++
    gaugeLine "clickstream_queue_depth" x.queueDepth ++
    gaugeLine "clickstream_active_sessions" x.activeSessions

end Exported

end ShopTraffic
