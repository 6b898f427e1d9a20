import ShopTraffic.Event
import ShopTraffic.Json.Printer
import ShopTraffic.Json.Reader

/-!
The wire text of an event. Writing has one fixed order of members. Reading takes them in any order
and ignores members that it does not know, but every known one must be there exactly once.
-/

namespace ShopTraffic

namespace Event

/-- The attributes as members: the move, then the further ones. -/
def attributes (e : Event) : List (String × Json) :=
  ("state", .text e.state.name) :: ("prev_state", .text e.previous.name) :: e.extra

def members (e : Event) : List (String × Json) :=
  [("event_id", .text e.id), ("event_type", .text e.action.name),
   ("event_ts", .ofInt e.time.toInt), ("user_id", .text e.user), ("session_id", .text e.session),
   ("attributes", .record e.attributes)]

def wire (e : Event) : String := Json.render (.record e.members)

end Event

namespace Tree

def string? : Tree → Option String
  | .text ps => Piece.string? ps
  | _ => none

/-- A name, alone or as the only member of an object whose value is null. -/
def tag? : Tree → Option String
  | .text ps => Piece.string? ps
  | .record [(ps, .null)] => Piece.string? ps
  | _ => none

def state? (t : Tree) : Option State := t.tag? >>= State.ofName?

def action? (t : Tree) : Option Action := t.tag? >>= Action.ofName?

/-- An integer of 64 bits with a sign, written as an integer. -/
def time? : Tree → Option Time
  | .number n =>
    match n.number? with
    | some (.integer i) => if i < 2 ^ (63 : Nat) then some (Int64.ofInt i) else none
    | _ => none
  | _ => none

/-- The member under a name that must be there exactly once. -/
def sole? {α : Type} (name : String) (members : List (String × α)) : Option α :=
  match members.filter (·.1 = name) with
  | [m] => some m.2
  | _ => none

def named? (members : List (List Piece × Tree)) : Option (List (String × Tree)) :=
  members.mapM fun m => return ((← Piece.string? m.1), m.2)

/-- Values nested this deep can stand in the attributes of an event. -/
def attributeDepth : Nat := maxDepth - 2

structure EventParts where
  id : Tree
  action : Tree
  time : Tree
  user : Tree
  session : Tree
  attributes : Tree
  deriving Inhabited

/-- The parts of an event, from an object or from a list of them in writing order. -/
def eventParts? : Tree → Option EventParts
  | .list [id, action, time, user, session, attributes] =>
    some { id, action, time, user, session, attributes }
  | .record ms => do
    let ms ← named? ms
    return {
      id := ← sole? "event_id" ms
      action := ← sole? "event_type" ms
      time := ← sole? "event_ts" ms
      user := ← sole? "user_id" ms
      session := ← sole? "session_id" ms
      attributes := ← sole? "attributes" ms }
  | _ => none

/-- The move and the further attributes. -/
def attributes? : Tree → Option (State × State × Fields)
  | .record ms => do
    let ms ← named? ms
    let state ← (← sole? "state" ms).state?
    let previous ← (← sole? "prev_state" ms).state?
    let extra ← (ms.filter fun m => !Event.isReserved m.1).mapM fun m =>
      return (m.1, (← value? attributeDepth m.2))
    return (state, previous, Fields.ofList extra)
  | _ => none

def event? (t : Tree) : Option Event := do
  let parts ← t.eventParts?
  let (state, previous, extra) ← parts.attributes.attributes?
  return {
    id := ← parts.id.string?
    action := ← parts.action.action?
    time := ← parts.time.time?
    user := ← parts.user.string?
    session := ← parts.session.string?
    state, previous, extra }

end Tree

def Event.ofWire? (s : String) : Option Event := Tree.ofText? s >>= Tree.event?

end ShopTraffic
