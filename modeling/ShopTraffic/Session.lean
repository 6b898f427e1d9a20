import ShopTraffic.Behaviour.State

/-!
A session is one visit of one visitor: where the visitor is and was, what was searched for and
picked, and until when the visit counts as live. Times are milliseconds in 64 bits, and a sum that
leaves that range stops at its end.
-/

namespace ShopTraffic

/-- Milliseconds since the epoch. -/
abbrev Time := Int64

def later (now span : Time) : Time := Int64.ofIntClamp (now.toInt + span.toInt)

/-- What a session remembers of the product that was picked last; empty texts if there is none. -/
structure Picked where
  product : String := ""
  category : String := ""
  country : String := ""
  deriving DecidableEq, Repr, Inhabited

structure Session where
  id : String := ""
  user : String := ""
  state : State := .outside
  previous : State := .outside
  pageType : String := ""
  eventPage : String := ""
  country : String := ""
  category : String := ""
  keyword : String := ""
  pageIndex : UInt32 := 0
  lastEvent : Time := 0
  expiry : Time := 0
  picked : Picked := {}
  quantity : UInt32 := 0
  deriving DecidableEq, Repr, Inhabited

namespace Session

def begin (id user : String) (now ttl : Time) : Session :=
  { id, user, state := .start, lastEvent := now, expiry := later now ttl }

def touch (s : Session) (now ttl : Time) : Session :=
  { s with lastEvent := now, expiry := later now ttl }

def isExpired (s : Session) (now : Time) : Bool := s.expiry ≤ now

/-- The visitor is still in the shop and the visit has not expired. -/
def isLive (s : Session) (now : Time) : Bool := !s.state.isTerminal && !s.isExpired now

/-- The next page of the results; the last number is never left. -/
def turnPage (s : Session) : Session :=
  { s with pageIndex := if s.pageIndex = 0xFFFFFFFF then s.pageIndex else s.pageIndex + 1 }

end Session

end ShopTraffic
