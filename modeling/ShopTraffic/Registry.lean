import Std.Data.HashMap
import ShopTraffic.Session

/-!
The registry keeps the current session of each visitor. Sessions are numbered in the order of their
creation, and a number stays good after its session has been removed. Two tables, one from session
ids to numbers and one from visitors to session ids, are always changed together.
-/

namespace ShopTraffic

/-- All sessions ever created, and which of them are registered. -/
structure Registry where
  ttl : Time
  created : Array Session := #[]
  sessions : Std.HashMap String Nat := ∅
  users : Std.HashMap String String := ∅

/-- How a visitor came by a session. -/
inductive Origin
  | kept
  | opened
  | afterExit
  | afterExpiry (session : String)
  deriving DecidableEq, Repr

namespace Registry

def session (r : Registry) (handle : Nat) : Session := (r.created[handle]?).getD default

/-- Changes the session with a number, registered or not. -/
def update (r : Registry) (handle : Nat) (f : Session → Session) : Registry :=
  { r with created := r.created.modify handle f }

def size (r : Registry) : Nat := r.sessions.size

def containsUser (r : Registry) (user : String) : Bool := r.users.contains user

def current? (r : Registry) (user : String) : Option Nat := r.users[user]? >>= (r.sessions[·]?)

/-- Takes away the entry of a visitor if it leads to the given session. -/
def unlink (r : Registry) (user session : String) : Registry :=
  if r.users[user]? = some session then { r with users := r.users.erase user } else r

def remove (r : Registry) (session : String) : Registry :=
  match r.sessions[session]? with
  | none => r
  | some handle =>
    let user := (r.session handle).user
    { r with sessions := r.sessions.erase session }.unlink user session

/-- The id of a new session: the visitor, the time, and the count of sessions so far. -/
def newId (r : Registry) (user : String) (now : Time) : String :=
  s!"sess_{user}_{now}_{r.created.size + 1}"

def openSession (r : Registry) (user : String) (now : Time) : Registry × Nat :=
  let id := r.newId user now
  let handle := r.created.size
  ({ r with
      created := r.created.push (Session.begin id user now r.ttl)
      sessions := r.sessions.insert id handle
      users := r.users.insert user id }, handle)

/-- The live session of a visitor, prolonged, or else a new one in place of the old. -/
def obtain (r : Registry) (user : String) (now : Time) : Registry × Nat × Origin :=
  match r.users[user]? with
  | none =>
    let (r, handle) := r.openSession user now
    (r, handle, .opened)
  | some id =>
    match r.sessions[id]? with
    | none =>
      let (r, handle) := r.openSession user now
      (r, handle, .opened)
    | some handle =>
      let s := r.session handle
      if s.isLive now then (r.update handle (·.touch now r.ttl), handle, .kept)
      else
        let origin := if s.state.isTerminal then .afterExit else .afterExpiry id
        let (r, handle) := (r.remove id).openSession user now
        (r, handle, origin)

/-- Removes a session; the answer says whether it was registered. -/
def delete (r : Registry) (user session : String) : Registry × Bool :=
  let known := r.sessions.contains session
  ({ r with sessions := r.sessions.erase session }.unlink user session, known)

def expired (r : Registry) (now : Time) : List String :=
  (r.sessions.toList.filter fun e => (r.session e.2).isExpired now).map (·.1)

def sweep (r : Registry) (now : Time) : Registry × Nat :=
  let ids := r.expired now
  (ids.foldl remove r, ids.length)

/-- Each visitor's entry leads to a session of that visitor, and there are no other sessions. -/
def isConsistent (r : Registry) : Bool :=
  r.users.size = r.sessions.size && r.users.toList.all fun e =>
    match r.sessions[e.2]? with
    | some handle => (r.session handle).user = e.1
    | none => false

end Registry

end ShopTraffic
