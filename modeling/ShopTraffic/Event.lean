import ShopTraffic.Json.Value
import ShopTraffic.Random.Uniform
import ShopTraffic.Session

/-!
An event says that a visitor did something: who, when, in which visit, and how the visit moved.
Further attributes describe the action; they never stand for the two places of the move.
-/

namespace ShopTraffic

open ShopTraffic.Random

/-- A move of a visit, as it is sent out. -/
structure Event where
  id : String
  action : Action
  time : Time
  user : String
  session : String
  state : State
  previous : State
  extra : Fields
  deriving Repr, Inhabited, BEq

namespace Event

def padded (width n : Nat) : String := String.ofList (List.leftpad width '0' (Nat.toDigits 10 n))

/-- The numbers that tell apart the events of one instant. -/
def idRange : Nat := 1000000000

/-- A new event id: the time, and nine random digits. -/
def drawId (now : Time) : Draw String := do
  return s!"evt-{now}-{padded 9 (← Draw.below idRange)}"

def draw (action : Action) (now : Time) (user session : String) (state previous : State) :
    Draw Event := do
  return { id := ← drawId now, action, time := now, user, session, state, previous, extra := [] }

/-- The attribute names that belong to the move itself. -/
def isReserved (name : String) : Bool := name = "state" || name = "prev_state"

/-- Adds attributes. Reserved names are left out; a name that is there gets the new value. -/
def withExtra (e : Event) (more : Fields) : Event :=
  { e with extra := e.extra.insertAll (more.filter fun m => !isReserved m.1) }

end Event

end ShopTraffic
