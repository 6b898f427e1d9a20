import ShopTraffic.Json.Printer
import ShopTraffic.Metrics.Counters

/-!
The counters of a run as a JSON text for people: a line for each count, indented by two blanks for
each level.
-/

namespace ShopTraffic.Snapshot

def quotedKey (name : String) : String := String.ofList (Json.quoted name)

/-- The counts under their names, one a line; without any the braces stay together. -/
def prettyCounts (m : Std.TreeMap String Nat) : String :=
  if m.isEmpty then "\x7b\x7d"
  else
    let lines := m.toList.map fun e => s!"    {quotedKey e.1}: {e.2}"
    "\x7b\n" ++ String.intercalate ",\n" lines ++ "\n  \x7d"

def pretty (s : Snapshot) : String :=
  let member (name value : String) := s!"  {quotedKey name}: {value}"
  let members := [
    member "total_events" (toString s.events),
    member "events_by_type" (prettyCounts s.byAction),
    member "sessions_started" (toString s.started),
    member "sessions_completed" (toString s.completed),
    member "transitions" (prettyCounts s.transitions),
    member "errors" (prettyCounts s.errors)]
  "\x7b\n" ++ String.intercalate ",\n" members ++ "\n\x7d"

end ShopTraffic.Snapshot
