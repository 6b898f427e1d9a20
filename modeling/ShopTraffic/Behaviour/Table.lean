import ShopTraffic.Behaviour.State
import ShopTraffic.Random.Weighted

/-!
The behaviour model: for each registered state a row of weighted transitions. A table answers
which transitions leave a state and draws one of them by weight.
-/

namespace ShopTraffic

open ShopTraffic.Random

/-- A possible move. Without a target it goes back to where the visitor came from. -/
structure Transition where
  action : Action
  target : Option State
  weight : Float
  deriving DecidableEq, Repr

namespace Transition

def go (a : Action) (s : State) (w : Float) : Transition := ⟨a, some s, w⟩

def back (w : Float) : Transition := ⟨.back, none, w⟩

def possible (t : Transition) : Bool := t.weight > 0

/-- Where the move leads from a visit whose previous place is `previous`. -/
def next (t : Transition) (previous : State) : State := t.target.getD (State.backTo previous)

end Transition

/-- The rows of the behaviour model, one at most for each state. -/
structure Table where
  rows : List (State × List Transition)
  deriving DecidableEq, Repr

namespace Table

/-- Adds a row; a row that the state had before is replaced. -/
def insert (t : Table) (s : State) (row : List Transition) : Table :=
  ⟨(s, row) :: t.rows.filter (·.1 ≠ s)⟩

/-- The total weight of the row is infinite: no table can hold it. -/
def unbounded (row : List Transition) : Bool := Weighted.overflows (row.map (·.weight))

/-- The table of a list of rows, of two rows of one state the later; `none` if the weights of one
overflow. -/
def ofRows? (rows : List (State × List Transition)) : Option Table :=
  if rows.any (unbounded ·.2) then none
  else some (rows.foldl (fun t r => t.insert r.1 r.2) ⟨[]⟩)

def row? (t : Table) (s : State) : Option (List Transition) := t.rows.lookup s

/-- The transitions that leave a state: none from a state that is not registered. -/
def transitions (t : Table) (s : State) : List Transition := (t.row? s).getD []

/-- The registered states with their rows, in the order of `State.all`. -/
def listed (t : Table) : List (State × List Transition) :=
  State.all.filterMap fun s => (t.row? s).map (s, ·)

/-- Draws a transition by weight. Nothing is drawn from a row without a positive total. -/
def choose (t : Table) (s : State) : Draw (Option Transition) :=
  let row := t.transitions s
  match Weighted.ofWeights? (row.map (·.weight)) with
  | none => return none
  | some w => return row[← w.draw]?

def standard : Table :=
  ⟨[(.browsing,
      [.go .searchSubmitted .search 0.3, .go .productClicked .click 0.2,
       .go .eventPageClicked .eventBrowsing 0.2, .go .categoryClicked .click 0.2,
       .go .pageViewed .browsing 0.5, .go .exit .exit 0.5]),
    (.eventBrowsing, [.back 0.7, .go .exit .exit 0.3]),
    (.search,
      [.go .productClicked .click 0.6, .go .pageViewed .nextPage 0.1, .back 0.2,
       .go .exit .exit 0.1]),
    (.nextPage,
      [.go .productClicked .click 0.6, .go .pageViewed .nextPage 0.2, .back 0.1,
       .go .exit .exit 0.1]),
    (.click,
      [.go .addToCart .addToCart 0.4, .go .purchased .purchase 0.4, .back 0.1,
       .go .exit .exit 0.1]),
    (.addToCart, [.go .purchased .purchase 0.7, .back 0.2, .go .exit .exit 0.1]),
    (.purchase, [.go .exit .exit 1.0]),
    (.exit, [])]⟩

end Table

end ShopTraffic
