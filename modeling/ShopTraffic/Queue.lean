/-!
A bounded first-in first-out queue. Its slots belong to the items that are in it and to the waiting
senders that have been granted one; a slot that becomes free is granted to the sender that has
waited longest. After closing nothing can be put in, but what is in can still be taken out.
-/

namespace ShopTraffic

/-- A queue: the items as a front and a reversed back, and the senders that wait. -/
structure Queue (α : Type) where
  capacity : Nat
  front : List α := []
  back : List α := []
  length : Nat := 0
  granted : Nat := 0
  waiting : Nat := 0
  closed : Bool := false
  deriving Repr, Inhabited

namespace Queue

variable {α : Type}

/-- The items, the oldest first. -/
def items (q : Queue α) : List α := q.front ++ q.back.reverse

def used (q : Queue α) : Nat := q.length + q.granted

def hasRoom (q : Queue α) : Bool := q.used < q.capacity

def push (q : Queue α) (a : α) : Queue α :=
  { q with back := a :: q.back, length := q.length + 1 }

/-- A sender that found no slot begins to wait. -/
def wait (q : Queue α) : Queue α := { q with waiting := q.waiting + 1 }

/-- The sender that was granted a slot puts its item in. -/
def deliver (q : Queue α) (a : α) : Queue α :=
  { q with granted := q.granted - 1 }.push a

/-- A slot has become free: it goes to the next waiting sender, if there is one. -/
def release (q : Queue α) : Queue α :=
  if q.waiting > 0 ∧ !q.closed then
    { q with waiting := q.waiting - 1, granted := q.granted + 1 }
  else q

/-- The oldest item and the queue without it; no slot is released yet. -/
def uncons (q : Queue α) : Option (α × Queue α) :=
  match q.front with
  | a :: front => some (a, { q with front, length := q.length - 1 })
  | [] =>
    match q.back.reverse with
    | a :: front => some (a, { q with front, back := [], length := q.length - 1 })
    | [] => none

def pop (q : Queue α) : Option (α × Queue α) := q.uncons.map fun r => (r.1, r.2.release)

def close (q : Queue α) : Queue α := { q with closed := true }

def clear (q : Queue α) : Queue α := { q with front := [], back := [], length := 0 }

/-- A waiting sender learns that the queue is closed and goes; a slot that it was granted is
free. -/
def abandon (q : Queue α) : Queue α :=
  if q.granted > 0 then { q with granted := q.granted - 1 } else { q with waiting := q.waiting - 1 }

end Queue

end ShopTraffic
