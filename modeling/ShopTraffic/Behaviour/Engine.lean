import ShopTraffic.Behaviour.Table
import ShopTraffic.Catalog.Search
import ShopTraffic.Event

/-!
One step of a visit through the behaviour model. The table chooses a transition, the session moves,
and an event tells of the move.
-/

namespace ShopTraffic

open ShopTraffic.Random

namespace Session

/-- A visit that is nowhere enters at the start. -/
def enter (s : Session) : Session :=
  { s with state := if s.state = .outside then .start else s.state }

def move (s : Session) (t : Transition) (now : Time) : Session :=
  { s with state := t.next s.previous, previous := s.state, lastEvent := now }

/-- A submitted search shows its first page of results. -/
def searchFor (s : Session) (keyword : String) : Session := { s with keyword, pageIndex := 1 }

/-- The session after a transition, with a new keyword if the action is a search. -/
def follow (s : Session) (t : Transition) (now : Time) : Draw Session :=
  if t.action = .searchSubmitted then
    return (s.move t now).searchFor (← Catalog.drawKeyword)
  else return s.move t now

/-- One step: the session after it, and the event of the move if there was one. -/
def step (table : Table) (s : Session) (now : Time) : Draw (Session × Option Event) := do
  let s := s.enter
  match ← table.choose s.state with
  | none => return (s, none)
  | some t =>
    let s' ← s.follow t now
    let e ← Event.draw t.action now s'.user s'.id s'.state s'.previous
    return (s', some e)

end Session

end ShopTraffic
