import Mathlib.Data.List.Perm.Basic
import Mathlib.Tactic.Common
import ShopTraffic.Clockwork
import ShopTraffic.Proofs.Metrics.Tallies

/-!
Counters that many callers use at once. A call adds to the counts of the run and then to the
exported series, in steps, and other calls go on between them. A count that has a key is first
looked for; only if it is not there it is put in, and by then another call may have put it in.

A snapshot takes its time as well: it shows each single count as it was at some moment while the
snapshot was taken, and not all of them at the same moment.
-/

namespace ShopTraffic

/-! ### Single counts -/

inductive Part
  | events
  | byAction (key : String)
  | started
  | completed
  | transitions (key : String)
  | errors (key : String)
  deriving DecidableEq, Repr

/-- The count is there only once its key was used. -/
def Part.isKeyed : Part → Bool
  | byAction _ | transitions _ | errors _ => true
  | events | started | completed => false

def Part.shown (p : Part) (n : Nat) : Option Nat := if p.isKeyed ∧ n = 0 then none else some n

@[simp] lemma Part.shown_succ (p : Part) (n : Nat) : p.shown (n + 1) = some (n + 1) := by
  simp [shown]

@[simp] lemma Part.getD_shown (p : Part) (n : Nat) : (p.shown n).getD 0 = n := by
  unfold shown
  split
  · next h => exact h.2.symm
  · rfl

namespace Snapshot

def single (s : Snapshot) : Part → Option Nat
  | .events => some s.events
  | .byAction key => s.byAction[key]?
  | .started => some s.started
  | .completed => some s.completed
  | .transitions key => s.transitions[key]?
  | .errors key => s.errors[key]?

def count (s : Snapshot) (p : Part) : Nat := (s.single p).getD 0

/-- Adds one to a count; a key that is not there is put in. -/
def increment (s : Snapshot) : Part → Snapshot
  | .events => { s with events := s.events + 1 }
  | .byAction key => { s with byAction := tally s.byAction key }
  | .started => { s with started := s.started + 1 }
  | .completed => { s with completed := s.completed + 1 }
  | .transitions key => { s with transitions := tally s.transitions key }
  | .errors key => { s with errors := tally s.errors key }

/-- Each single count of `s` is in `s'` too, and not smaller there. -/
def Below (s s' : Snapshot) : Prop :=
  ∀ p n, s.single p = some n → ∃ n', n ≤ n' ∧ s'.single p = some n'

variable {s s' s'' : Snapshot} {p q : Part}

/-- **One count changes**, and all others stay. -/
lemma single_increment (s : Snapshot) (p q : Part) :
    (s.increment p).single q = if p = q then some (s.count q + 1) else s.single q := by
  cases p <;> cases q <;>
    simp [increment, single, count, getElem?_tally, Std.TreeMap.getD_eq_getD_getElem?]

lemma events_increment (s : Snapshot) (p : Part) :
    (s.increment p).events = s.events + if p = .events then 1 else 0 := by
  cases p <;> rfl

lemma below_refl (s : Snapshot) : s.Below s := fun _ n h => ⟨n, Nat.le_refl n, h⟩

lemma Below.trans (h : s.Below s') (h' : s'.Below s'') : s.Below s'' := by
  intro p n hn
  obtain ⟨n', hle, hn'⟩ := h p n hn
  obtain ⟨n'', hle', hn''⟩ := h' p n' hn'
  exact ⟨n'', Nat.le_trans hle hle', hn''⟩

lemma Below.isSome (h : s.Below s') (hp : (s.single p).isSome) : (s'.single p).isSome := by
  obtain ⟨n, hn⟩ := Option.isSome_iff_exists.mp hp
  obtain ⟨n', -, hn'⟩ := h p n hn
  rw [hn']
  rfl

lemma below_increment (s : Snapshot) (p : Part) : s.Below (s.increment p) := by
  intro q n hn
  rw [single_increment]
  by_cases h : p = q
  · refine ⟨n + 1, Nat.le_succ n, ?_⟩
    simp [h, count, hn]
  · exact ⟨n, Nat.le_refl n, by rw [if_neg h, hn]⟩

end Snapshot

lemma Exported.getElem?_add (x : Exported) (c k : Counter) (n : Nat) :
    (x.add c n).counters[k]? =
      if c = k then some ((x.counters.getD k 0 + n) % 2 ^ 64) else x.counters[k]? := by
  simp only [Exported.add, Std.HashMap.getElem?_insert, beq_iff_eq]
  split
  · next h => rw [h]
  · rfl

/-! ### Calls -/

inductive Call
  | event (action : Action)
  | started
  | completed
  | transition (previous next : State)
  | error (kind : String)
  deriving DecidableEq, Repr

namespace Call

def part : Call → Part
  | event a => .byAction a.name
  | started => .started
  | completed => .completed
  | transition previous next => .transitions (transitionKey previous next)
  | error kind => .errors kind

def counter : Call → Counter
  | event a => .events a
  | started => .started
  | completed => .completed
  | transition previous next => .transitions previous next
  | error kind => .errors kind

def isEvent : Call → Bool
  | event _ => true
  | _ => false

def whole (m : Metrics) : Call → Metrics
  | event a => m.event a
  | started => m.started
  | completed => m.completed
  | transition previous next => m.transition previous next
  | error kind => m.error kind

/-- **Different calls have different counts.** -/
lemma part_inj {c c' : Call} (h : c.part = c'.part) : c = c' := by
  cases c <;> cases c' <;> simp only [part, reduceCtorEq, Part.byAction.injEq,
    Part.transitions.injEq, Part.errors.injEq] at h ⊢
  · rw [Action.name_inj h]
  · obtain ⟨rfl, rfl⟩ := transitionKey_inj h
    rfl
  · rw [h]

lemma counter_inj {c c' : Call} (h : c.counter = c'.counter) : c = c' := by
  cases c <;> cases c' <;> simp_all [counter]

/-- Only events are sorted by their action. -/
lemma total_increment (s : Snapshot) (c : Call) :
    total (s.increment c.part).byAction = total s.byAction + c.isEvent.toNat := by
  cases c with
  | event a => exact total_tally s.byAction a.name
  | _ => rfl

lemma part_ne_events (c : Call) : c.part ≠ .events := by
  cases c <;> nofun

end Call

inductive Phase
  /-- It adds to the number of all events. -/
  | total
  /-- It looks for its key; if that is not there, it looks again so many times. -/
  | seek (again : Nat)
  /-- It adds to the count that it has found. -/
  | add
  /-- It finds its key or puts it in, and adds to the count; nothing comes in between. -/
  | insert
  /-- It adds to the exported counter. -/
  | mirror
  | returned
  deriving DecidableEq, Repr

namespace Phase

/-- Where a call begins. A count without a key need not be looked for; errors are looked for
twice. -/
def first : Call → Phase
  | .event _ => total
  | .started | .completed => add
  | .transition _ _ => seek 0
  | .error _ => seek 1

def hasAdded : Phase → Bool
  | mirror | returned => true
  | total | seek _ | add | insert => false

/-- The most steps that a call still has before it. -/
def toGo : Phase → Nat
  | returned => 0
  | mirror => 1
  | add | insert => 2
  | seek again => again + 3
  | total => 4

end Phase

structure Job where
  call : Call
  phase : Phase
  deriving DecidableEq, Repr

namespace Job

def go (j : Job) (m : Metrics) : Metrics × Phase :=
  let s := m.counts
  match j.phase with
  | .total => ({ m with counts := s.increment .events }, .seek 0)
  | .seek again =>
    if (s.single j.call.part).isSome then (m, .add)
    else
      match again with
      | 0 => (m, .insert)
      | n + 1 => (m, .seek n)
  | .add =>
    if (s.single j.call.part).isSome then
      ({ m with counts := s.increment j.call.part }, .mirror)
    else (m, .mirror)
  | .insert => ({ m with counts := s.increment j.call.part }, .mirror)
  | .mirror => ({ m with exported := m.exported.add j.call.counter 1 }, .returned)
  | .returned => (m, .returned)

def hasAdded (p : Part) (j : Job) : Bool := j.call.part = p ∧ j.phase.hasAdded

/-- The call has added to the number of all events. -/
def hasTotalled (j : Job) : Bool := j.call.isEvent ∧ j.phase ≠ .total

/-- The call has added to the number of events with its action. -/
def hasSorted (j : Job) : Bool := j.call.isEvent ∧ j.phase.hasAdded

def hasMirrored (c : Counter) (j : Job) : Bool := j.call.counter = c ∧ j.phase = .returned

def Ready (s : Snapshot) (j : Job) : Prop :=
  match j.phase with
  | .total => j.call.isEvent
  | .add => (s.single j.call.part).isSome
  | .seek _ | .insert | .mirror | .returned => True

variable {s s' : Snapshot} {j : Job}

lemma Ready.mono (h : j.Ready s) (hs : s.Below s') : j.Ready s' := by
  obtain ⟨call, phase⟩ := j
  cases phase with
  | add => exact hs.isSome h
  | _ => exact h

lemma ready_first (s : Snapshot) (c : Call) : Ready s ⟨c, .first c⟩ := by
  cases c <;> trivial

end Job

structure Counting where
  metrics : Metrics := {}
  jobs : List Job := []

namespace Counting

inductive Move
  | call (call : Call)
  /-- The call with this place among all that were made does the next thing that it has to do. -/
  | go (place : Nat)
  deriving DecidableEq, Repr

def Move.call? : Move → Option Call
  | .call c => some c
  | .go _ => none

def calls (moves : List Move) : List Call := moves.filterMap Move.call?

def perform (c : Counting) : Move → Counting
  | .call call => { c with jobs := c.jobs ++ [⟨call, .first call⟩] }
  | .go place =>
    match c.jobs[place]? with
    | none => c
    | some j =>
      let (metrics, phase) := j.go c.metrics
      { metrics, jobs := c.jobs.set place { j with phase } }

def run (c : Counting) (moves : List Move) : Counting := moves.foldl perform c

@[simp] lemma run_nil (c : Counting) : c.run [] = c := rfl

@[simp] lemma run_cons (c : Counting) (m : Move) (moves : List Move) :
    c.run (m :: moves) = (c.perform m).run moves := rfl

lemma run_append (c : Counting) (moves more : List Move) :
    c.run (moves ++ more) = (c.run moves).run more := by
  simp [run, List.foldl_append]

variable {c : Counting} {place : Nat} {j : Job}

lemma perform_go (h : c.jobs[place]? = some j) :
    c.perform (.go place) =
      { metrics := (j.go c.metrics).1
        jobs := c.jobs.set place { j with phase := (j.go c.metrics).2 } } := by
  simp only [perform, h]

/-! ### A call that is alone -/

/-- **A call that nothing comes between** does what the whole call does at once. -/
lemma run_call (c : Counting) (call : Call) :
    c.run (.call call :: List.replicate 4 (.go c.jobs.length)) =
      ⟨call.whole c.metrics, c.jobs ++ [⟨call, .returned⟩]⟩ := by
  have hgo : ∀ (m : Metrics) (phase : Phase),
      perform ⟨m, c.jobs ++ [⟨call, phase⟩]⟩ (.go c.jobs.length) =
        ⟨(Job.go ⟨call, phase⟩ m).1, c.jobs ++ [⟨call, (Job.go ⟨call, phase⟩ m).2⟩]⟩ := by
    intro m phase
    rw [perform_go (j := ⟨call, phase⟩) (by simp)]
    simp
  have hcall : c.perform (.call call) = ⟨c.metrics, c.jobs ++ [⟨call, .first call⟩]⟩ := rfl
  rw [run_cons, hcall]
  simp only [List.replicate, run_cons, run_nil, hgo]
  cases call with
  | event a =>
    by_cases hk : (c.metrics.counts.single (.byAction a.name)).isSome <;>
      simp [Job.go, Phase.first, Call.part, Snapshot.single_increment, hk] <;> rfl
  | started | completed => rfl
  | transition p q =>
    by_cases hk : (c.metrics.counts.single (.transitions (transitionKey p q))).isSome <;>
      simp [Job.go, Phase.first, Call.part, hk] <;> rfl
  | error kind =>
    by_cases hk : (c.metrics.counts.single (.errors kind)).isSome <;>
      simp [Job.go, Phase.first, Call.part, hk] <;> rfl

/-! ### What the counts are -/

def exportedAs (n : Nat) : Option Nat := if n = 0 then none else some (n % 2 ^ 64)

lemma exportedAs_succ (n : Nat) :
    exportedAs (n + 1) = some (((exportedAs n).getD 0 + 1) % 2 ^ 64) := by
  unfold exportedAs
  rw [if_neg n.succ_ne_zero]
  split
  · next h => simp [h]
  · simp

/-- Each count is told by the calls that have added to it. -/
structure Exact (c : Counting) : Prop where
  ready : ∀ j ∈ c.jobs, j.Ready c.metrics.counts
  single : ∀ p ≠ .events, c.metrics.counts.single p = p.shown (c.jobs.countP (Job.hasAdded p))
  events : c.metrics.counts.events = c.jobs.countP Job.hasTotalled
  sorted : total c.metrics.counts.byAction = c.jobs.countP Job.hasSorted
  exported : ∀ k,
    c.metrics.exported.counters[k]? = exportedAs (c.jobs.countP (Job.hasMirrored k))

lemma start_exact : Exact {} := by
  constructor
  · simp
  · intro p _
    cases p <;> rfl
  · rfl
  · rfl
  · intro k
    simp [exportedAs]

lemma countP_set_same (h : c.jobs[place]? = some j) {f : Job → Bool} {j' : Job}
    (hf : f j' = f j) : (c.jobs.set place j').countP f = c.jobs.countP f := by
  have := countP_listSet h f j'
  rw [hf] at this
  omega

lemma countP_set_more (h : c.jobs[place]? = some j) {f : Job → Bool} {j' : Job}
    (hf : f j = false) (hf' : f j' = true) :
    (c.jobs.set place j').countP f = c.jobs.countP f + 1 := by
  have := countP_listSet h f j'
  rw [hf, hf'] at this
  exact this

lemma ready_set {s s' : Snapshot} {j' : Job} (h : ∀ j ∈ c.jobs, j.Ready s) (hs : s.Below s')
    (hj : j'.Ready s') : ∀ i ∈ c.jobs.set place j', i.Ready s' := by
  intro i hi
  rcases List.mem_or_eq_of_mem_set hi with hi | rfl
  · exact (h i hi).mono hs
  · exact hj

lemma Exact.call (h : c.Exact) (call : Call) : (c.perform (.call call)).Exact := by
  have hnew : ∀ f : Job → Bool, f (Job.mk call (.first call)) = false →
      (c.jobs ++ [Job.mk call (.first call)]).countP f = c.jobs.countP f := by
    intro f hf
    simp [hf]
  have hfirst : (Phase.first call).hasAdded = false ∧ Phase.first call ≠ .returned ∧
      (call.isEvent → Phase.first call = .total) := by
    cases call <;> simp [Phase.first, Phase.hasAdded, Call.isEvent]
  obtain ⟨hadded, hreturned, htotal⟩ := hfirst
  constructor <;> simp only [Counting.perform]
  · intro j hj
    rcases List.mem_append.mp hj with hj | hj
    · exact h.ready j hj
    · rw [List.mem_singleton.mp hj]
      exact Job.ready_first _ call
  · intro p hp
    rw [hnew (Job.hasAdded p) (by simp [Job.hasAdded, hadded])]
    exact h.single p hp
  · rw [hnew Job.hasTotalled (by simpa [Job.hasTotalled] using htotal)]
    exact h.events
  · rw [hnew Job.hasSorted (by simp [Job.hasSorted, hadded])]
    exact h.sorted
  · intro k
    rw [hnew (Job.hasMirrored k) (by simp [Job.hasMirrored, hreturned])]
    exact h.exported k

/-- A call has only looked for its key, or has nothing to do any more. -/
lemma Exact.aside (h : c.Exact) (hj : c.jobs[place]? = some j) {phase : Phase}
    (hready : Job.Ready c.metrics.counts ⟨j.call, phase⟩)
    (hadded : phase.hasAdded = j.phase.hasAdded)
    (htotal : j.phase ≠ .total ∧ phase ≠ .total)
    (hreturned : phase = .returned ↔ j.phase = .returned) :
    Exact { c with jobs := c.jobs.set place ⟨j.call, phase⟩ } := by
  constructor <;> simp only
  · exact ready_set h.ready (Snapshot.below_refl _) hready
  · intro p hp
    rw [countP_set_same hj (by simp [Job.hasAdded, hadded])]
    exact h.single p hp
  · rw [countP_set_same hj (by simp [Job.hasTotalled, htotal])]
    exact h.events
  · rw [countP_set_same hj (by simp [Job.hasSorted, hadded])]
    exact h.sorted
  · intro k
    rw [countP_set_same hj (by simp [Job.hasMirrored, hreturned])]
    exact h.exported k

/-- An event was added to the number of all events. -/
lemma Exact.totals (h : c.Exact) (hj : c.jobs[place]? = some j) (hp : j.phase = .total) :
    Exact { metrics := { c.metrics with counts := c.metrics.counts.increment .events }
            jobs := c.jobs.set place ⟨j.call, .seek 0⟩ } := by
  have hevent : j.call.isEvent := by
    have := h.ready j (List.mem_of_getElem? hj)
    simpa [Job.Ready, hp] using this
  constructor <;> simp only
  · exact ready_set h.ready (Snapshot.below_increment _ _) trivial
  · intro p hne
    rw [countP_set_same hj (by simp [Job.hasAdded, hp, Phase.hasAdded]),
      Snapshot.single_increment, if_neg hne.symm]
    exact h.single p hne
  · rw [countP_set_more hj (by simp [Job.hasTotalled, hp]) (by simp [Job.hasTotalled, hevent]),
      Snapshot.events_increment, if_pos rfl, h.events]
  · rw [countP_set_same hj (by simp [Job.hasSorted, hp, Phase.hasAdded])]
    exact h.sorted
  · intro k
    rw [countP_set_same hj (by simp [Job.hasMirrored, hp])]
    exact h.exported k

/-- A call has added to its count. -/
lemma Exact.adds (h : c.Exact) (hj : c.jobs[place]? = some j)
    (hp : j.phase = .add ∨ j.phase = .insert) :
    Exact { metrics := { c.metrics with counts := c.metrics.counts.increment j.call.part }
            jobs := c.jobs.set place ⟨j.call, .mirror⟩ } := by
  have hphase : j.phase.hasAdded = false ∧ j.phase ≠ .total ∧ j.phase ≠ .returned := by
    rcases hp with hp | hp <;> simp [hp, Phase.hasAdded]
  obtain ⟨hadded, htotal, hreturned⟩ := hphase
  constructor <;> simp only
  · exact ready_set h.ready (Snapshot.below_increment _ _) trivial
  · intro p hne
    rw [Snapshot.single_increment]
    by_cases hpart : j.call.part = p
    · rw [if_pos hpart, countP_set_more hj (by simp [Job.hasAdded, hadded])
        (by simp [Job.hasAdded, hpart, Phase.hasAdded]), Part.shown_succ, Snapshot.count,
        h.single p hne, Part.getD_shown]
    · rw [if_neg hpart, countP_set_same hj (by simp [Job.hasAdded, hpart])]
      exact h.single p hne
  · rw [countP_set_same hj (by simp [Job.hasTotalled, htotal]), Snapshot.events_increment,
      if_neg j.call.part_ne_events]
    exact h.events
  · have hsorted := countP_listSet hj Job.hasSorted ⟨j.call, .mirror⟩
    have hold : j.hasSorted = false := by simp [Job.hasSorted, hadded]
    have hnew : Job.hasSorted ⟨j.call, .mirror⟩ = j.call.isEvent := by
      simp [Job.hasSorted, Phase.hasAdded]
    rw [hold, hnew, Bool.toNat_false, Nat.add_zero] at hsorted
    rw [Call.total_increment, h.sorted, hsorted]
  · intro k
    rw [countP_set_same hj (by simp [Job.hasMirrored, hreturned])]
    exact h.exported k

/-- A call has added to its exported counter. -/
lemma Exact.mirrors (h : c.Exact) (hj : c.jobs[place]? = some j) (hp : j.phase = .mirror) :
    Exact { metrics := { c.metrics with exported := c.metrics.exported.add j.call.counter 1 }
            jobs := c.jobs.set place ⟨j.call, .returned⟩ } := by
  constructor <;> simp only
  · exact ready_set h.ready (Snapshot.below_refl _) trivial
  · intro p hne
    rw [countP_set_same hj (by simp [Job.hasAdded, hp, Phase.hasAdded])]
    exact h.single p hne
  · rw [countP_set_same hj (by simp [Job.hasTotalled, hp])]
    exact h.events
  · rw [countP_set_same hj (by simp [Job.hasSorted, hp, Phase.hasAdded])]
    exact h.sorted
  · intro k
    rw [Exported.getElem?_add]
    by_cases hk : j.call.counter = k
    · rw [if_pos hk, countP_set_more hj (by simp [Job.hasMirrored, hp])
        (by simp [Job.hasMirrored, hk]), exportedAs_succ, Std.HashMap.getD_eq_getD_getElem?,
        h.exported k]
    · rw [if_neg hk, countP_set_same hj (by simp [Job.hasMirrored, hk])]
      exact h.exported k

/-- **Every move keeps the counts exact.** -/
lemma Exact.perform (h : c.Exact) (m : Move) : (c.perform m).Exact := by
  cases m with
  | call call => exact h.call call
  | go place =>
    rcases hj : c.jobs[place]? with _ | ⟨call, phase⟩
    · simpa only [Counting.perform, hj] using h
    have hready := h.ready _ (List.mem_of_getElem? hj)
    rw [perform_go hj]
    cases phase with
    | total => exact h.totals hj rfl
    | seek again =>
      by_cases hk : (c.metrics.counts.single call.part).isSome
      · simp only [Job.go, hk, if_true]
        exact h.aside hj hk rfl (by simp) (by simp)
      · cases again <;> simp only [Job.go, hk, if_false, Bool.false_eq_true] <;>
          exact h.aside hj trivial rfl (by simp) (by simp)
    | add =>
      have hk : (c.metrics.counts.single call.part).isSome := hready
      simp only [Job.go, hk, if_true]
      exact h.adds hj (.inl rfl)
    | insert => exact h.adds hj (.inr rfl)
    | mirror => exact h.mirrors hj rfl
    | returned =>
      simp only [Job.go]
      exact h.aside hj trivial rfl (by simp) (by simp)

lemma Exact.run (h : c.Exact) (moves : List Move) : (c.run moves).Exact := by
  induction moves generalizing c with
  | nil => exact h
  | cons m moves ih => exact ih (h.perform m)

/-! ### Which calls were made -/

lemma perform_calls (c : Counting) (m : Move) :
    (c.perform m).jobs.map (·.call) = c.jobs.map (·.call) ++ m.call?.toList := by
  cases m with
  | call call => simp [perform, Move.call?]
  | go place =>
    rcases hj : c.jobs[place]? with _ | j
    · simp [perform, hj, Move.call?]
    · obtain ⟨hp, rfl⟩ := List.getElem?_eq_some_iff.mp hj
      have hset : (c.jobs.map (·.call)).set place c.jobs[place].call = c.jobs.map (·.call) := by
        rw [← List.map_set, List.set_getElem_self]
      simp [perform_go hj, Move.call?, List.map_set, hset]

/-- The calls are there in the order in which they were made. -/
lemma run_calls (c : Counting) (moves : List Move) :
    (c.run moves).jobs.map (·.call) = c.jobs.map (·.call) ++ calls moves := by
  induction moves generalizing c with
  | nil => simp [calls]
  | cons m moves ih =>
    rw [run_cons, ih, perform_calls, List.append_assoc]
    cases m <;> rfl

/-! ### Calls return -/

/-- A call that has not returned comes nearer to it. -/
lemma toGo_go (m : Metrics) (h : j.phase ≠ .returned) : (j.go m).2.toGo < j.phase.toGo := by
  obtain ⟨call, phase⟩ := j
  cases phase with
  | total | insert | mirror => exact Nat.lt_succ_self _
  | returned => exact absurd rfl h
  | seek again => cases again <;> simp only [Job.go] <;> split <;> simp [Phase.toGo]
  | add =>
    simp only [Job.go]
    split <;> exact Nat.lt_succ_self _

/-- **Every call can return**, whatever the others do. -/
lemma exists_returned (c : Counting) :
    ∃ more, calls more = [] ∧ ∀ j ∈ (c.run more).jobs, j.phase = .returned := by
  generalize hn : (c.jobs.map (·.phase.toGo)).sum = n
  induction n using Nat.strongRecOn generalizing c with
  | ind n ih =>
    by_cases hall : ∀ j ∈ c.jobs, j.phase = .returned
    · exact ⟨[], rfl, hall⟩
    obtain ⟨j, hj, hp⟩ : ∃ j ∈ c.jobs, j.phase ≠ .returned := by simpa using hall
    obtain ⟨place, hplace⟩ := List.mem_iff_getElem?.mp hj
    have hless : ((c.jobs.set place ⟨j.call, (j.go c.metrics).2⟩).map (·.phase.toGo)).sum < n := by
      have hsum := sum_map_listSet hplace (·.phase.toGo) ⟨j.call, (j.go c.metrics).2⟩
      have hgo := toGo_go c.metrics hp
      simp only at hsum
      omega
    obtain ⟨more, hcalls, hmore⟩ := ih _ hless (c.perform (.go place)) (by rw [perform_go hplace])
    exact ⟨.go place :: more, hcalls, hmore⟩

/-! ### Snapshots -/

/-- Each single count of the snapshot was there at some moment of these moves. -/
def Reads (c : Counting) (moves : List Move) (s : Snapshot) : Prop :=
  ∀ p, ∃ n, s.single p = (c.run (moves.take n)).metrics.counts.single p

lemma perform_below (c : Counting) (m : Move) :
    c.metrics.counts.Below (c.perform m).metrics.counts := by
  cases m with
  | call call => exact Snapshot.below_refl _
  | go place =>
    rcases hj : c.jobs[place]? with _ | ⟨call, phase⟩
    · simpa only [perform, hj] using Snapshot.below_refl _
    rw [perform_go hj]
    cases phase with
    | total | insert => exact Snapshot.below_increment _ _
    | mirror | returned => exact Snapshot.below_refl _
    | seek again =>
      simp only [Job.go]
      split
      · exact Snapshot.below_refl _
      · cases again <;> exact Snapshot.below_refl _
    | add =>
      simp only [Job.go]
      split
      · exact Snapshot.below_increment _ _
      · exact Snapshot.below_refl _

lemma run_below (c : Counting) (moves : List Move) :
    c.metrics.counts.Below (c.run moves).metrics.counts := by
  induction moves generalizing c with
  | nil => exact Snapshot.below_refl _
  | cons m moves ih => exact (c.perform_below m).trans (ih _)

/-- **A later snapshot shows no less.** -/
lemma Reads.below {moves after : List Move} {s s' : Snapshot} (h : c.Reads moves s)
    (h' : (c.run moves).Reads after s') : s.Below s' := by
  intro p n hn
  obtain ⟨k, hk⟩ := h p
  obtain ⟨k', hk'⟩ := h' p
  have hto : (c.run (moves.take k)).metrics.counts.Below (c.run moves).metrics.counts := by
    have := run_below (c.run (moves.take k)) (moves.drop k)
    rwa [← run_append, List.take_append_drop] at this
  obtain ⟨n', hle, hn'⟩ := hto.trans (run_below _ (after.take k')) p n (hk ▸ hn)
  exact ⟨n', hle, hk'.trans hn'⟩

/-! ### Once all calls have returned -/

section Returned

variable (h : c.Exact) (hall : ∀ j ∈ c.jobs, j.phase = .returned)
include h hall

lemma Exact.count_eq (call : Call) :
    c.metrics.counts.count call.part = (c.jobs.map (·.call)).count call := by
  rw [Snapshot.count, h.single _ call.part_ne_events, Part.getD_shown, List.count, List.countP_map]
  refine List.countP_congr fun j hj => ?_
  have hpart : j.call.part = call.part ↔ j.call = call := ⟨Call.part_inj, congrArg _⟩
  simp [Job.hasAdded, hall j hj, Phase.hasAdded, hpart]

lemma Exact.events_eq :
    c.metrics.counts.events = (c.jobs.map (·.call)).countP Call.isEvent := by
  rw [h.events, List.countP_map]
  refine List.countP_congr fun j hj => ?_
  simp [Job.hasTotalled, hall j hj]

lemma Exact.total_eq :
    total c.metrics.counts.byAction = (c.jobs.map (·.call)).countP Call.isEvent := by
  rw [h.sorted, List.countP_map]
  refine List.countP_congr fun j hj => ?_
  simp [Job.hasSorted, hall j hj, Phase.hasAdded]

/-- The two copies of a count agree. -/
lemma Exact.exported_eq (call : Call) :
    c.metrics.exported.counters.getD call.counter 0 =
      c.metrics.counts.count call.part % 2 ^ 64 := by
  have hmirrored : c.jobs.countP (Job.hasMirrored call.counter) =
      (c.jobs.map (·.call)).count call := by
    rw [List.count, List.countP_map]
    refine List.countP_congr fun j hj => ?_
    have hcounter : j.call.counter = call.counter ↔ j.call = call :=
      ⟨Call.counter_inj, congrArg _⟩
    simp [Job.hasMirrored, hall j hj, hcounter]
  rw [Std.HashMap.getD_eq_getD_getElem?, h.exported, hmirrored, h.count_eq hall, exportedAs]
  split
  · next h0 => simp [h0]
  · rfl

end Returned

/-- There is no key that no call has asked for. -/
lemma Exact.exists_call {p : Part} (h : c.Exact) (hp : p.isKeyed)
    (hs : (c.metrics.counts.single p).isSome) :
    ∃ call ∈ c.jobs.map (·.call), call.part = p := by
  rw [h.single p (by rintro rfl; cases hp)] at hs
  have hpos : c.jobs.countP (Job.hasAdded p) ≠ 0 := by
    intro h0
    simp [Part.shown, hp, h0] at hs
  obtain ⟨j, hj, hadded⟩ := List.countP_pos_iff.mp (Nat.pos_of_ne_zero hpos)
  simp only [Job.hasAdded, decide_eq_true_eq] at hadded
  exact ⟨j.call, List.mem_map_of_mem hj, hadded.1⟩

lemma Exact.exists_call_exported {k : Counter} (h : c.Exact)
    (hk : k ∈ c.metrics.exported.counters) :
    ∃ call ∈ c.jobs.map (·.call), call.counter = k := by
  rw [Std.HashMap.mem_iff_isSome_getElem?, h.exported] at hk
  have hpos : c.jobs.countP (Job.hasMirrored k) ≠ 0 := by
    intro h0
    simp [exportedAs, h0] at hk
  obtain ⟨j, hj, hmirrored⟩ := List.countP_pos_iff.mp (Nat.pos_of_ne_zero hpos)
  simp only [Job.hasMirrored, decide_eq_true_eq] at hmirrored
  exact ⟨j.call, List.mem_map_of_mem hj, hmirrored.1⟩

/-- **Counters lose nothing.** However the steps of calls follow each other, once all calls have
returned, each count is the number of calls for it, there are as many events as there are under all
actions together, and the exported counters say the same, as far as they reach. At every moment
there is no count under a key and no exported counter that was not called for, and the calls can all
return; and what a snapshot shows is no more than what any snapshot shows that is taken later, while
further steps are made. -/
theorem run_counts (moves : List Move) :
    let c := run {} moves
    let s := c.metrics.counts
    let exported := c.metrics.exported.counters
    ((∀ j ∈ c.jobs, j.phase = .returned) →
      (∀ call : Call, s.count call.part = (calls moves).count call) ∧
      s.events = (calls moves).countP Call.isEvent ∧
      s.events = total s.byAction ∧
      ∀ call : Call, exported.getD call.counter 0 = s.count call.part % 2 ^ 64) ∧
    (∀ p, p.isKeyed → (s.single p).isSome → ∃ call ∈ calls moves, call.part = p) ∧
    (∀ k ∈ exported, ∃ call ∈ calls moves, call.counter = k) ∧
    (∃ more, calls more = [] ∧ ∀ j ∈ (c.run more).jobs, j.phase = .returned) ∧
    ∀ after s₁ s₂, Reads {} moves s₁ → c.Reads after s₂ → s₁.Below s₂ := by
  intro c s exported
  have h : c.Exact := start_exact.run moves
  have hcalls : c.jobs.map (·.call) = calls moves := run_calls {} moves
  rw [← hcalls]
  refine ⟨fun hall => ⟨h.count_eq hall, h.events_eq hall, ?_, h.exported_eq hall⟩,
    fun p => h.exists_call, fun k => h.exists_call_exported, exists_returned c,
    fun after s₁ s₂ => Reads.below⟩
  exact (h.events_eq hall).trans (h.total_eq hall).symm

/-- Two errors that both find no entry for their kind, and an event between them. -/
def rush : List Move :=
  [.call (.error "publish"), .call (.error "publish"), .go 0, .go 1,
    .call (.event .searchSubmitted), .go 0, .go 2, .go 1, .go 0, .go 1, .go 2, .go 2, .go 1, .go 2,
    .go 0]

theorem run_counts_rush :
    let c := run {} rush
    (∀ j ∈ c.jobs, j.phase = .returned) ∧ c.metrics.counts.count (.errors "publish") = 2 ∧
      c.metrics.exported.counters.getD (.errors "publish") 0 = 2 ∧
      c.metrics.counts.events = 1 ∧ total c.metrics.counts.byAction = 1 := by
  have hall : ∀ j ∈ (run {} rush).jobs, j.phase = .returned := by decide +kernel
  obtain ⟨hcount, hevents, htotal, hexported⟩ := (run_counts rush).1 hall
  have herrors : (run {} rush).metrics.counts.count (.errors "publish") = 2 :=
    (hcount (.error "publish")).trans (by decide)
  have hevent : (run {} rush).metrics.counts.events = 1 := hevents.trans (by decide)
  exact ⟨hall, herrors, (hexported (.error "publish")).trans (congrArg (· % 2 ^ 64) herrors),
    hevent, htotal.symm.trans hevent⟩

end Counting

end ShopTraffic
