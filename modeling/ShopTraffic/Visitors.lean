import ShopTraffic.Random.Uniform

/-!
The pool of simulated visitors. It only grows, and its members are numbered from one on. Growing
takes two looks: one that finds the pool too small, and one that extends it from the size it has by
then.
-/

namespace ShopTraffic

open ShopTraffic.Random

structure Visitors where
  ids : Array String := #[]
  deriving DecidableEq, Repr, Inhabited

namespace Visitors

def size (v : Visitors) : Nat := v.ids.size

def idOf (number : Nat) : String := s!"user_{number}"

def isShort (v : Visitors) (least : Nat) : Bool := v.size < least

/-- Adds visitors up to a number of them; nothing happens if there are enough. -/
def extend (v : Visitors) (least : Nat) : Visitors :=
  ⟨(List.range' (v.size + 1) (least - v.size)).foldl (fun ids n => ids.push (idOf n)) v.ids⟩

/-- Sees to it that there are at least so many visitors; the answer is how many were added. -/
def ensure (v : Visitors) (least : Nat) : Visitors × Nat :=
  if v.isShort least then (v.extend least, least - v.size) else (v, 0)

/-- A visitor, each with the same chance; none from an empty pool. -/
def draw (v : Visitors) : Draw (Option String) := do
  return (← Draw.index v.size) >>= (v.ids[·]?)

end Visitors

end ShopTraffic
