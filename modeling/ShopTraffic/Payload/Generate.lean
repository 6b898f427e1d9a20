import ShopTraffic.Payload.Checkout
import ShopTraffic.Payload.Results

/-!
The payload of an event. The action and the place that the visitor came from decide on its kind;
whom and what it belongs to is added to every payload.
-/

namespace ShopTraffic

open ShopTraffic.Random

namespace Payload

def back (s : Session) : Draw Part :=
  match s.previous with
  | .eventBrowsing => eventPageBack s
  | .search => resultsBack s
  | .nextPage => laterPageBack s
  | .click => productBack s
  | .addToCart => cartBack s
  | .purchase => paymentBack s
  | .outside | .browsing | .exit => return homeLeft s

def exited (s : Session) : Draw Part :=
  match s.previous with
  | .eventBrowsing => eventPageExited s
  | .search => resultsExited s
  | .nextPage => laterPageExited s
  | .click => return productExited s
  | .addToCart => cartExited s
  | .purchase => paymentExited s
  | .outside | .browsing | .exit => return homeLeft s

/-- A product is clicked on the page that the visitor came from. -/
def productClicked (s : Session) : Draw Part :=
  match s.previous with
  | .search => resultClicked s
  | .nextPage => laterResultClicked s
  | _ => exposureClicked s

/-- What an action adds to the payload, by the session after the move. -/
def part (a : Action) (s : Session) : Draw Part :=
  match a with
  | .searchSubmitted => searchSubmitted s
  | .pageViewed => if s.state = .nextPage then nextPageViewed s else homeViewed s
  | .eventPageClicked => eventPageOpened s
  | .productClicked => productClicked s
  | .categoryClicked => listOpened s
  | .addToCart => addedToCart s
  | .purchased => if s.previous = .addToCart then cartCheckedOut s else purchased s
  | .back => back s
  | .exit => exited s

def common (s : Session) : List (String × Json) :=
  [("session_id", .text s.id), ("user_id", .text s.user),
   ("generated_at", .ofInt s.lastEvent.toInt), ("current_state", .text s.state.name)]

/-- A payload, the session after it, and a keyword that led to no product. -/
structure Generated where
  fields : Fields
  session : Session
  unmatched : Option String
  deriving Inhabited

def generate (a : Action) (s : Session) : Draw Generated := do
  let p ← part a s
  return ⟨Fields.ofList (p.members ++ common p.session), p.session, p.unmatched⟩

end Payload

end ShopTraffic
