import ShopTraffic.Payload.Parts

/-!
Payloads from the product page to the payment. They all carry the product that was picked last.
-/

namespace ShopTraffic

open ShopTraffic.Random

namespace Payload

def quantityMember (s : Session) : String × Json := ("quantity", .ofNat s.quantity.toNat)

def addedToCart (s : Session) : Draw Part := do
  let s := { s with quantity := ← drawQuantity }
  return { session := s, members := pickedMembers s "category" ++ [quantityMember s] }

def productBack (s : Session) : Draw Part := do
  return {
    session := s
    members := pickedMembers s "category" ++ [("stay_sec", ← drawStay 5 30)] }

def productExited (s : Session) : Part :=
  { session := s, members := pickedMembers s "category" ++ [("exit_reason", .text "user_left")] }

def drawCart (s : Session) : Draw (List (String × Json)) := do
  let unknown : List (String × Json) :=
    if s.picked.category = "" then [("product_category", .text "unknown")] else []
  return pickedMembers s "product_category" ++ unknown ++
    [quantityMember s, ("stay_sec", ← drawStay 5 20)]

def cartCheckedOut (s : Session) : Draw Part := do
  return {
    session := s
    members := (← drawCart s) ++ [("purchase_source", .text "cart_checkout")] }

def cartBack (s : Session) : Draw Part := do
  return { session := s, members := (← drawCart s) ++ [("action", .text "back_to_previous")] }

def cartExited (s : Session) : Draw Part := do
  return {
    session := s
    members := (← drawCart s) ++ [("exit_reason", .text "user_left_with_items")] }

def drawPayment (s : Session) : Draw (List (String × Json)) := do
  let method ← Draw.oneOf "card" ["kakao_pay", "naver_pay", "apple_pay", "google_pay"]
  return pickedMembers s "product_category" ++
    [quantityMember s, ("payment_method", .text method), ("stay_sec", ← drawStay 20 40)]

/-- A purchase from the product page decides on the quantity. -/
def purchased (s : Session) : Draw Part := do
  let quantity ← if s.previous = .click then drawQuantity else pure s.quantity
  let s := { s with quantity }
  return { session := s, members := ← drawPayment s }

def paymentBack (s : Session) : Draw Part := do
  return { session := s, members := ← drawPayment s }

/-- The later time replaces the first one. -/
def paymentExited (s : Session) : Draw Part := do
  let known ← drawPayment s
  return {
    session := s
    members := known ++ [("action", .text "order_complete_exit"),
      ("exit_reason", .text "user_closed_after_purchase"), ("stay_sec", ← drawStay 2 10)] }

end Payload

end ShopTraffic
