import ShopTraffic.Behaviour.Table

/-!
Which states can be reached from a state. The search keeps the states that it has seen and a
queue of those whose successors are still to be looked at; it ends because every round sees a new
state or shortens the queue.
-/

namespace ShopTraffic.Table

/-- Where the possible transitions of a state lead; going back counts as going to the start. -/
def successors (t : Table) (s : State) : List State :=
  ((t.transitions s).filter (·.possible)).map (·.target.getD State.start)

def everyState : List State := .outside :: State.all

theorem mem_everyState (s : State) : s ∈ everyState := by cases s <;> decide

def unseen (seen : List State) : List State := everyState.filter (· ∉ seen)

/-- Marks the states of a list as seen; the second part holds those that were new, in order. -/
def discover (seen : List State) : List State → List State × List State
  | [] => (seen, [])
  | s :: rest =>
    if s ∈ seen then discover seen rest
    else
      let (seen', new) := discover (seen ++ [s]) rest
      (seen', s :: new)

theorem unseen_append_lt {seen : List State} {s : State} (h : s ∉ seen) :
    (unseen (seen ++ [s])).length + 1 ≤ (unseen seen).length := by
  have hs : s ∈ unseen seen := by simp [unseen, mem_everyState, h]
  have hsub : (unseen (seen ++ [s])) = (unseen seen).filter (· ≠ s) := by
    simp [unseen, List.filter_filter, Bool.and_comm]
  rw [hsub]
  have := List.length_filter_lt_length_iff_exists (p := (· ≠ s)) (l := unseen seen)
  have hlt : ((unseen seen).filter (· ≠ s)).length < (unseen seen).length :=
    this.2 ⟨s, hs, by simp⟩
  omega

theorem discover_measure (seen l : List State) :
    (unseen (discover seen l).1).length + (discover seen l).2.length ≤ (unseen seen).length := by
  induction l generalizing seen with
  | nil => simp [discover]
  | cons s rest ih =>
    by_cases h : s ∈ seen
    · simpa [discover, h] using ih seen
    · have h1 := ih (seen ++ [s])
      have h2 := unseen_append_lt h
      simp only [discover, h, if_false, List.length_cons]
      omega

/-- The search: states seen so far, and those whose successors are still to be looked at. -/
def searchFrom (t : Table) (seen : List State) : List State → List State
  | [] => seen
  | s :: queue =>
    let found := discover seen (t.successors s)
    searchFrom t found.1 (queue ++ found.2)
termination_by queue => 2 * (unseen seen).length + queue.length
decreasing_by
  have := discover_measure seen (t.successors s)
  simp only [List.length_append, List.length_cons]
  omega

/-- The states that can be reached from `s`, with `s` itself. -/
def reachableFrom (t : Table) (s : State) : List State := t.searchFrom [s] [s]

def canReachExit (t : Table) (s : State) : Bool := .exit ∈ t.reachableFrom s

/-- The registered states that have transitions but no way to the exit. -/
def statesWithoutExit (t : Table) : List State :=
  (t.listed.filter fun r => !r.2.isEmpty && !t.canReachExit r.1).map (·.1)

end ShopTraffic.Table
