import ShopTraffic.Catalog.Search
import ShopTraffic.Event

/-!
What payloads are made of: the members of the payload, and the session that remembers what later
payloads need. Of two members with one name the later counts.
-/

namespace ShopTraffic

open ShopTraffic.Random

namespace Payload

/-- The members of a payload in writing order, and the session after it. A keyword that led to no
product is reported. -/
structure Part where
  session : Session
  members : List (String × Json) := []
  unmatched : Option String := none
  deriving Inhabited

/-- A whole number of seconds, at least `least` and less than `least + span`. -/
def drawStay (least span : Nat) : Draw Json := do
  return .ofNat (least + (← Draw.below span))

def drawQuantity : Draw UInt32 := do
  return 1 + (← Draw.below 5).toUInt32

def remember (s : Session) (p : Product) : Session :=
  { s with picked := { product := p.id, category := p.category, country := p.country } }

/-- The product that was picked last; the name of the category's member differs between pages. -/
def pickedMembers (s : Session) (categoryName : String) : List (String × Json) :=
  [("product_id", .text s.picked.product), (categoryName, .text s.picked.category),
   ("country", .text s.picked.country)]

end Payload

end ShopTraffic
