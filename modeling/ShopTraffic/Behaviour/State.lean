/-!
Where a visitor is in the shop, and what a visitor does. Both have one lower-case name each, and
reading a name gives back the state or action that it names.
-/

namespace ShopTraffic

/-- The place of a visitor. `outside` stands for no place: not in the shop yet, or nowhere to go
back to. -/
inductive State
  | outside | browsing | eventBrowsing | search | nextPage | click | addToCart | purchase | exit
  deriving DecidableEq, Repr, Inhabited, Hashable

namespace State

def all : List State :=
  [browsing, eventBrowsing, search, nextPage, click, addToCart, purchase, exit]

def start : State := browsing

def name : State → String
  | outside => ""
  | browsing => "browsing"
  | eventBrowsing => "eventbrowsing"
  | search => "search"
  | nextPage => "nextpage"
  | click => "click"
  | addToCart => "addtocart"
  | purchase => "purchase"
  | exit => "exit"

def ofName? (s : String) : Option State := (outside :: all).find? (·.name == s)

def isTerminal (s : State) : Bool := s = exit

/-- Going back leads to the previous place, or to the start if there is none. -/
def backTo (previous : State) : State := if previous = outside then start else previous

end State

inductive Action
  | searchSubmitted | pageViewed | eventPageClicked | productClicked | categoryClicked
  | addToCart | purchased | back | exit
  deriving DecidableEq, Repr, Inhabited, Hashable

namespace Action

def all : List Action :=
  [searchSubmitted, pageViewed, eventPageClicked, productClicked, categoryClicked,
   addToCart, purchased, back, exit]

def name : Action → String
  | searchSubmitted => "search_submitted"
  | pageViewed => "page_viewed"
  | eventPageClicked => "event_page_clicked"
  | productClicked => "product_clicked"
  | categoryClicked => "category_clicked"
  | addToCart => "add_to_cart"
  | purchased => "purchased"
  | back => "back"
  | exit => "exit"

def ofName? (s : String) : Option Action := all.find? (·.name == s)

/-- A submitted search is also counted as the start of a session. -/
def startsSession (a : Action) : Bool := a = searchSubmitted

def endsSession (a : Action) : Bool := a = exit

end Action

end ShopTraffic
