import ShopTraffic.Proofs.Simulation.Deferral
import ShopTraffic.Proofs.Simulation.Order
import ShopTraffic.Proofs.Simulation.Removals

/-!
What a seed fixes. All steps draw their visitors from one source and their moves from another, so
the order in which they come to a source says who gets what of it.

The visitors come in an order that the seed alone fixes. The events are fixed too once it is known
in which order the steps draw visitors, look sessions up and move them on: what becomes of the
events afterwards makes no difference. That order itself does make one. If two steps that have found
their visitors move on in the other order, the visitors change parts.
-/

namespace ShopTraffic

open ShopTraffic.Random

/-! ### The visitors that are drawn -/

def Visitors.draws (v : Visitors) (source : Source) : Nat → List (Option String)
  | 0 => []
  | n + 1 => (v.draw source).1 :: v.draws (v.draw source).2 n

namespace Simulation

/-- The next visitors will be the same. -/
structure SameVisitors (sim sim' : Simulation) : Prop where
  visitors : sim'.visitors = sim.visitors
  userSource : sim'.userSource = sim.userSource

variable {sim sim' sim'' : Simulation}

lemma SameDraws.sameVisitors (h : sim.SameDraws sim') : sim.SameVisitors sim' :=
  ⟨h.visitors, h.userSource⟩

lemma SameVisitors.trans (h : sim.SameVisitors sim') (h' : sim'.SameVisitors sim'') :
    sim.SameVisitors sim'' :=
  ⟨h'.visitors.trans h.visitors, h'.userSource.trans h.userSource⟩

lemma advance_sameVisitors (sim : Simulation) (n : Nat) (now : Time) :
    sim.SameVisitors (sim.advance n now).1 := by
  unfold advance
  split <;> exact ⟨rfl, rfl⟩

end Simulation

/-! ### Steps of one simulation, compared with steps of another -/

/-- Whose session the step has found and not moved on yet, and when. -/
def Stage.ready? : Stage → Option (String × Nat × Time)
  | found user n now => some (user, n, now)
  | leaving _ _ | sending _ _ _ | sent _ _ | ended => none

lemma Stage.eq_found {s : Stage} {user : String} {n : Nat} {now : Time}
    (h : s.ready? = some (user, n, now)) : s = .found user n now := by
  cases s <;> cases h
  rfl

namespace Weave

def events (w : Weave) : List Event := w.made.map Made.event

def find (w : Weave) (user : String) (now : Time) : Weave :=
  let (sim, handle) := w.sim.obtain user now
  { w with sim, steps := w.steps ++ [.found user handle now] }

/-- The same events were made, and those that are still to be made will be the same. -/
structure Alike (w w' : Weave) : Prop where
  sim : w.sim.Alike w'.sim
  events : w'.events = w.events
  ready : w'.steps.map Stage.ready? = w.steps.map Stage.ready?

variable {T : Table} {w w' : Weave} {place n : Nat} {s : Stage} {user : String} {now : Time}

lemma ready_setStage (w : Weave) (place : Nat) (s : Stage) :
    (w.setStage place s).steps.map Stage.ready? = (w.steps.map Stage.ready?).set place s.ready? :=
  List.map_set

/-- A step that has moved on may go on. -/
lemma ready_setStage_rest {s' : Stage} (hs : w.steps[place]? = some s) (hr : s.ready? = none)
    (hr' : s'.ready? = none) :
    (w.setStage place s').steps.map Stage.ready? = w.steps.map Stage.ready? := by
  obtain ⟨hlt, hs⟩ := List.getElem?_eq_some_iff.mp hs
  rw [ready_setStage, hr', ← hr, ← hs, ← List.getElem_map (f := Stage.ready?) (h := by simpa),
    List.set_getElem_self]

lemma Parting.find (h : w.Parting T) (ht : T.LeavesForGood) (user : String) (now : Time) :
    (w.find user now).Parting T := by
  have ho := h.sane.sound.obtained user now
  have hl : (w.perform (.lookUp user now)).Parting T := h.perform ht _
  refine ⟨⟨hl.sane.sound, fun s hs => ?_⟩, hl.table, fun s hs session hx => ?_⟩ <;>
    rcases List.mem_append.mp hs with hs | hs
  · exact hl.sane.known s hs
  · rw [List.mem_singleton.mp hs]
    show Stage.Known (w.sim.obtain user now).1.registry (.found user (w.sim.obtain user now).2 now)
    rw [Simulation.obtain_registry, Simulation.obtain_handle]
    exact ⟨ho.handle, ho.user⟩
  · exact hl.left s hs session hx
  · rw [List.mem_singleton.mp hs] at hx
    cases hx

/-- A step begins with a draw and a look-up. -/
lemma perform_begin_eq_find {sim : Simulation} (h : w.sim.drawVisitor = (sim, some user))
    (now : Time) : w.perform (.begin now) = ({ w with sim } : Weave).find user now :=
  perform_begin h now

lemma Alike.find (h : w.Alike w') (user : String) (now : Time) :
    (w.find user now).Alike (w'.find user now) := by
  obtain ⟨hhandle, hsim⟩ := h.sim.obtain user now
  refine ⟨hsim, h.events, ?_⟩
  simp only [Weave.find, List.map_append, h.ready, hhandle]

/-- A step that has found its visitor makes the same event in both. -/
lemma Alike.go_found (h : w.Alike w') (ht : w.sim.table.transitions .exit = []) :
    (w.go place (.found user n now)).Alike (w'.go place (.found user n now)) := by
  obtain ⟨hevent, hsim⟩ := h.sim.advance (n := n) (fun _ => ht) now
  rcases ha : w.sim.advance n now with ⟨sim, e⟩
  rcases ha' : w'.sim.advance n now with ⟨sim', e'⟩
  rw [ha, ha'] at hevent hsim
  obtain rfl : e' = e := hevent
  cases e' with
  | none =>
    rw [go_stuck ha, go_stuck ha']
    refine ⟨hsim, h.events, ?_⟩
    rw [ready_setStage, ready_setStage, h.ready]
    split <;> split <;> rfl
  | some e =>
    rw [go_moved ha, go_moved ha']
    refine ⟨⟨hsim.draws.congr (Simulation.countMove_draws ..) (Simulation.countMove_draws ..),
      hsim.registry⟩, ?_, ?_⟩
    · simp only [setStage, Weave.events, List.map_append, List.map_singleton]
      exact congrArg (· ++ [e]) h.events
    · rw [ready_setStage, ready_setStage, h.ready]
      rfl

/-- What a step deletes is not missed. -/
lemma Alike.deleted (h : w.Alike w') {session : String} (hk : w.sim.registry.Knows user session)
    (hl : w.sim.registry.HasLeft session) :
    (w.sim.registry.delete user session).1.Alike w'.sim.registry := by
  obtain ⟨m, hm, rfl, rfl⟩ := hk
  exact h.sim.registry.delete hm (h.sim.registry.sound.state_of_hasLeft hl hm rfl)

/-- What a step does after it has made its event cannot be told from its delay. -/
lemma Alike.go_rest (h : w.Alike w') (hp : w.Parting T) (hs : w.steps[place]? = some s)
    (hr : s.ready? = none) : (w.go place s).Alike w' := by
  have hknown := hp.sane.known s (List.mem_of_getElem? hs)
  have hleft := hp.left s (List.mem_of_getElem? hs)
  have hstage : ∀ {w₁ : Weave} {s' : Stage}, w₁.steps = w.steps → s'.ready? = none →
      w'.steps.map Stage.ready? = (w₁.setStage place s').steps.map Stage.ready? := by
    intro w₁ s' hw hr'
    rw [ready_setStage_rest (hw ▸ hs) hr hr', hw, h.ready]
  cases s with
  | found user n now => cases hr
  | leaving user session =>
    exact ⟨⟨h.sim.draws.congr ⟨rfl, rfl, rfl, rfl, rfl⟩ (Simulation.sameDraws_refl _),
      h.deleted hknown (hleft session rfl)⟩, h.events, hstage rfl rfl⟩
  | sending number p waits =>
    rcases ho : w.sim.output.offer p.event waits with ⟨output, _ | taken⟩
    · rw [go_blocked ho]
      exact ⟨h.sim.queued output, h.events, hstage rfl rfl⟩
    · rw [go_offered ho]
      exact ⟨h.sim.queued output, h.events, hstage rfl rfl⟩
  | sent p taken =>
    refine ⟨⟨h.sim.draws.congr (Simulation.finish_draws ..) (Simulation.sameDraws_refl _), ?_⟩,
      h.events, hstage rfl rfl⟩
    show (w.sim.finish p taken).1.registry.Alike _
    rw [Simulation.finish_registry]
    split
    · next he => exact h.deleted hknown (hleft p.event.session (if_pos he))
    · exact h.sim.registry
  | ended => exact h

/-- Only a step that draws a visitor changes who comes next. -/
lemma go_sameVisitors (w : Weave) (place : Nat) (s : Stage) :
    w.sim.SameVisitors (w.go place s).sim := by
  cases s with
  | found user n now =>
    have hv := w.sim.advance_sameVisitors n now
    rcases ha : w.sim.advance n now with ⟨sim, _ | e⟩ <;> rw [ha] at hv
    · rw [go_stuck ha]
      exact hv
    · rw [go_moved ha]
      exact hv.trans (sim.countMove_draws e).sameVisitors
  | leaving user session => exact ⟨rfl, rfl⟩
  | sending number p waits =>
    rcases ho : w.sim.output.offer p.event waits with ⟨output, _ | taken⟩
    · rw [go_blocked ho]
      exact ⟨rfl, rfl⟩
    · rw [go_offered ho]
      exact ⟨rfl, rfl⟩
  | sent p taken => exact (w.sim.finish_draws p taken).sameVisitors
  | ended => exact ⟨rfl, rfl⟩

end Weave

/-! ### Steps that draw their visitors some time before they look them up -/

/-- What a step has begun with: the visitor that was drawn for it, and its place among the steps
that have looked their visitors up. -/
structure Errand where
  visitor : Option String
  place : Option Nat := none

/-- A simulation with the steps that have drawn their visitors. -/
structure Floor where
  weave : Weave
  errands : List Errand := []

namespace Floor

/-- What can happen next. The steps are numbered in the order in which they draw their visitors. -/
inductive Move
  | draw
  /-- The step looks the session of its visitor up. -/
  | find (number : Nat) (now : Time)
  /-- The step moves the session on and makes the event. -/
  | advance (number : Nat)
  /-- The step does the next thing that is left to do after that. -/
  | conclude (number : Nat)
  | sweep (now : Time)
  | receive
  | close
  deriving DecidableEq

def place? (f : Floor) (number : Nat) : Option Nat := f.errands[number]? >>= Errand.place

def ready? (f : Floor) (number : Nat) : Option (String × Nat × Time) :=
  (f.place? number >>= (f.weave.steps[·]?)) >>= Stage.ready?

def go (f : Floor) (number : Nat) : Floor :=
  match f.place? number with
  | none => f
  | some place => { f with weave := f.weave.perform (.go place) }

def perform (f : Floor) : Move → Floor
  | .draw =>
    let (sim, visitor) := f.weave.sim.drawVisitor
    { weave := { f.weave with sim }, errands := f.errands ++ [{ visitor }] }
  | .find number now =>
    match f.errands[number]? with
    | some ⟨some user, none⟩ =>
      { weave := f.weave.find user now
        errands := f.errands.set number ⟨some user, some f.weave.steps.length⟩ }
    | _ => f
  | .advance number => if (f.ready? number).isSome then f.go number else f
  | .conclude number => if (f.ready? number).isSome then f else f.go number
  | .sweep now => { f with weave := f.weave.perform (.sweep now) }
  | .receive => { f with weave := f.weave.perform .receive }
  | .close => { f with weave := f.weave.perform .close }

def run (f : Floor) (moves : List Move) : Floor := moves.foldl perform f

@[simp] lemma run_nil (f : Floor) : f.run [] = f := rfl

@[simp] lemma run_cons (f : Floor) (m : Move) (moves : List Move) :
    f.run (m :: moves) = (f.perform m).run moves := rfl

lemma run_append (f : Floor) (moves moves' : List Move) :
    f.run (moves ++ moves') = (f.run moves).run moves' :=
  List.foldl_append

/-- A shop with the given table and so many visitors, before anything has happened in it. -/
def opened (table : Table) (seed : UInt64) (ttl : Time) (capacity least : Nat) : Floor :=
  { weave := { sim := ((Simulation.create seed ttl capacity table).ensureVisitors least).1 } }

def drawn (f : Floor) : List (Option String) := f.errands.map Errand.visitor

/-- The move uses what all steps share, apart from the queue. -/
def Move.isLocked : Move → Bool
  | draw | find _ _ | advance _ | sweep _ => true
  | conclude _ | receive | close => false

/-- The step that goes on, if it has drawn its visitor before. -/
def Move.number? : Move → Option Nat
  | find number _ | advance number | conclude number => some number
  | draw | sweep _ | receive | close => none

variable {T : Table} {f f' : Floor} {number : Nat} {now : Time}

/-- A step that does everything up to the look-up at once begins like any other. -/
lemma run_draw_find {sim : Simulation} {user : String}
    (h : f.weave.sim.drawVisitor = (sim, some user)) (now : Time) :
    (f.run [.draw, .find f.errands.length now]).weave = f.weave.perform (.begin now) := by
  rw [Weave.perform_begin_eq_find h]
  simp [perform, h]

lemma go_eq {place : Nat} {s : Stage} (h : f.place? number = some place)
    (hs : f.weave.steps[place]? = some s) :
    f.go number = { f with weave := f.weave.go place s } := by
  simp only [go, h, Weave.perform_go hs]

lemma ready?_eq {place : Nat} {s : Stage} (h : f.place? number = some place)
    (hs : f.weave.steps[place]? = some s) : f.ready? number = s.ready? := by
  simp [ready?, h, hs]

/-- A step that has not looked its visitor up does not go on. -/
lemma go_cases (f : Floor) (number : Nat) :
    (f.go number = f ∧ f.ready? number = none) ∨
      ∃ place s, f.place? number = some place ∧ f.weave.steps[place]? = some s := by
  rcases h : f.place? number with _ | place
  · exact .inl ⟨by simp only [go, h], by simp [ready?, h]⟩
  · rcases hs : f.weave.steps[place]? with _ | s
    · exact .inl ⟨by simp only [go, h, Weave.perform_go_none hs], by simp [ready?, h, hs]⟩
    · exact .inr ⟨place, s, rfl, hs⟩

/-- A step looks its visitor up once, if there is one. -/
lemma find_cases (f : Floor) (number : Nat) (now : Time) :
    f.perform (.find number now) = f ∨
      ∃ user, f.errands[number]? = some ⟨some user, none⟩ ∧
        f.perform (.find number now) =
          { weave := f.weave.find user now
            errands := f.errands.set number ⟨some user, some f.weave.steps.length⟩ } := by
  rcases h : f.errands[number]? with _ | ⟨_ | user, _ | place⟩
  case some.some.none => exact .inr ⟨user, rfl, by simp only [perform, h]⟩
  all_goals exact .inl (by simp only [perform, h])

/-! ### The visitors come in one order -/

lemma go_drawn (f : Floor) (number : Nat) :
    (f.go number).drawn = f.drawn ∧ f.weave.sim.SameVisitors (f.go number).weave.sim := by
  rcases f.go_cases number with ⟨h, -⟩ | ⟨place, s, h, hs⟩
  · rw [h]
    exact ⟨rfl, rfl, rfl⟩
  · rw [go_eq h hs]
    exact ⟨rfl, f.weave.go_sameVisitors place s⟩

/-- A move other than a draw draws no visitor. -/
lemma perform_drawn (f : Floor) {m : Move} (hm : m ≠ .draw) :
    (f.perform m).drawn = f.drawn ∧ f.weave.sim.SameVisitors (f.perform m).weave.sim := by
  cases m with
  | draw => exact absurd rfl hm
  | find number now =>
    rcases f.find_cases number now with h | ⟨user, he, h⟩ <;> rw [h]
    · exact ⟨rfl, rfl, rfl⟩
    · refine ⟨?_, (f.weave.sim.obtain_draws user now).sameVisitors⟩
      obtain ⟨hlt, he⟩ := List.getElem?_eq_some_iff.mp he
      rw [drawn, List.map_set, drawn]
      refine (congrArg _ ?_).trans (List.set_getElem_self (by simpa))
      rw [List.getElem_map, he]
  | advance number =>
    simp only [perform]
    split
    · exact f.go_drawn number
    · exact ⟨rfl, rfl, rfl⟩
  | conclude number =>
    simp only [perform]
    split
    · exact ⟨rfl, rfl, rfl⟩
    · exact f.go_drawn number
  | sweep now => exact ⟨rfl, (f.weave.sim.sweep_draws now).sameVisitors⟩
  | receive =>
    refine ⟨rfl, ?_⟩
    simp only [perform, Weave.perform]
    split <;> exact ⟨rfl, rfl⟩
  | close => exact ⟨rfl, rfl, rfl⟩

/-- **Which visitors are drawn depends on nothing but how many are.** -/
lemma run_drawn (f : Floor) (moves : List Move) :
    (f.run moves).drawn =
      f.drawn ++ f.weave.sim.visitors.draws f.weave.sim.userSource (moves.count .draw) := by
  induction moves generalizing f with
  | nil => exact (List.append_nil _).symm
  | cons m moves ih =>
    rw [run_cons, ih]
    by_cases hm : m = .draw
    · subst hm
      rw [List.count_cons_self]
      simp only [perform, drawn, List.map_append, List.append_assoc]
      rfl
    · obtain ⟨hdrawn, hv⟩ := f.perform_drawn hm
      rw [hdrawn, hv.visitors, hv.userSource, List.count_cons_of_ne hm]

/-! ### The events follow from the order of the locked moves -/

/-- The same visitors were drawn, and the same events were made. -/
structure Alike (f f' : Floor) : Prop where
  weave : f.weave.Alike f'.weave
  errands : f'.errands = f.errands

lemma Alike.place? (h : f.Alike f') (number : Nat) : f'.place? number = f.place? number := by
  rw [Floor.place?, h.errands, Floor.place?]

/-- A step that is ready in one of them is ready in both. -/
lemma Alike.ready? (h : f.Alike f') (number : Nat) : f'.ready? number = f.ready? number := by
  have hjoin : ∀ f : Floor, f.ready? number =
      f.place? number >>= fun place => (f.weave.steps.map Stage.ready?)[place]?.join := by
    intro f
    rcases h : f.place? number with _ | place
    · simp [Floor.ready?, h]
    · rcases hs : f.weave.steps[place]? with _ | s <;> simp [Floor.ready?, h, hs]
  rw [hjoin, hjoin, h.place?, h.weave.ready]

lemma ready?_some {r : String × Nat × Time} (h : f.ready? number = some r) :
    ∃ place, f.place? number = some place ∧
      f.weave.steps[place]? = some (.found r.1 r.2.1 r.2.2) := by
  rcases f.go_cases number with ⟨-, hnone⟩ | ⟨place, s, hplace, hs⟩
  · rw [h] at hnone
    cases hnone
  · rw [ready?_eq hplace hs] at h
    exact ⟨place, hplace, hs.trans (congrArg some (Stage.eq_found h))⟩

/-- A step that moves its session on does it in both. -/
lemma Alike.advance (h : f.Alike f') (ht : f.weave.sim.table.transitions .exit = [])
    (number : Nat) : (f.perform (.advance number)).Alike (f'.perform (.advance number)) := by
  rcases hr : f.ready? number with _ | ⟨user, n, now⟩
  · simpa only [perform, h.ready?, hr, Option.isSome_none, Bool.false_eq_true, if_false] using h
  · obtain ⟨place, hplace, hs⟩ := ready?_some hr
    obtain ⟨place', hplace', hs'⟩ := ready?_some ((h.ready? number).trans hr)
    obtain rfl : place' = place := Option.some.inj
      (hplace'.symm.trans ((h.place? number).trans hplace))
    simp only [perform, h.ready?, hr, Option.isSome_some, if_true]
    rw [go_eq hplace hs, go_eq hplace' hs']
    exact ⟨h.weave.go_found ht, h.errands⟩

lemma Alike.find (h : f.Alike f') (number : Nat) (now : Time) :
    (f.perform (.find number now)).Alike (f'.perform (.find number now)) := by
  have hlength : f'.weave.steps.length = f.weave.steps.length := by
    simpa using congrArg List.length h.weave.ready
  rcases he : f.errands[number]? with _ | ⟨_ | user, _ | place⟩ <;>
    simp only [perform, h.errands, he]
  case some.some.none =>
    rw [hlength]
    exact ⟨h.weave.find user now, rfl⟩
  all_goals exact h

/-- A locked move makes the same events in both. -/
lemma Alike.perform (h : f.Alike f') (ht : f.weave.sim.table.transitions .exit = []) {m : Move}
    (hm : m.isLocked = true) : (f.perform m).Alike (f'.perform m) := by
  cases m with
  | draw =>
    obtain ⟨hvisitor, hsim⟩ := h.weave.sim.drawVisitor
    refine ⟨⟨hsim, h.weave.events, h.weave.ready⟩, ?_⟩
    simp only [Floor.perform, h.errands, hvisitor]
  | find number now => exact h.find number now
  | advance number => exact h.advance ht number
  | sweep now => exact ⟨⟨h.weave.sim.sweep now, h.weave.events, h.weave.ready⟩, h.errands⟩
  | conclude | receive | close => cases hm

/-- The other moves make none, and it cannot be told whether they were made. -/
lemma Alike.perform_left (h : f.Alike f') (hp : f.weave.Parting T) {m : Move}
    (hm : m.isLocked = false) : (f.perform m).Alike f' := by
  cases m with
  | conclude number =>
    simp only [Floor.perform]
    split
    · exact h
    · next hr =>
      rcases f.go_cases number with ⟨hgo, -⟩ | ⟨place, s, hplace, hs⟩
      · rwa [hgo]
      · rw [ready?_eq hplace hs, Option.not_isSome_iff_eq_none] at hr
        rw [go_eq hplace hs]
        exact ⟨h.weave.go_rest hp hs hr, h.errands⟩
  | receive =>
    simp only [Floor.perform, Weave.perform]
    split
    · exact h
    · exact ⟨⟨h.weave.sim.queued _, h.weave.events, h.weave.ready⟩, h.errands⟩
  | close => exact ⟨⟨h.weave.sim.queued _, h.weave.events, h.weave.ready⟩, h.errands⟩
  | draw | find | advance | sweep => cases hm

/-- No move of a step reaches a session again whose visitor is to be taken out. -/
lemma parting_perform (h : f.weave.Parting T) (ht : T.LeavesForGood) (m : Move) :
    (f.perform m).weave.Parting T := by
  have hgo : ∀ number, (f.go number).weave.Parting T := by
    intro number
    unfold go
    split
    · exact h
    · next place _ => exact h.perform ht (.go place)
  cases m with
  | draw =>
    exact h.perform ht (.reseed (f.weave.sim.visitors.draw f.weave.sim.userSource).2
      f.weave.sim.engineSource f.weave.sim.payloadSource)
  | find number now =>
    rcases f.find_cases number now with hf | ⟨user, -, hf⟩ <;> rw [hf]
    · exact h
    · exact h.find ht user now
  | advance number =>
    simp only [perform]
    split
    · exact hgo number
    · exact h
  | conclude number =>
    simp only [perform]
    split
    · exact h
    · exact hgo number
  | sweep now => exact h.perform ht (.sweep now)
  | receive => exact h.perform ht .receive
  | close => exact h.perform ht .close

/-- A run makes the events of its locked moves. -/
lemma Alike.run_left (h : f.Alike f') (hp : f.weave.Parting T) (ht : T.LeavesForGood)
    (moves : List Move) : (f.run moves).Alike (f'.run (moves.filter Move.isLocked)) := by
  induction moves generalizing f f' with
  | nil => exact h
  | cons m moves ih =>
    have hp' := parting_perform hp ht m
    rcases hm : m.isLocked
    · rw [List.filter_cons_of_neg (by simp [hm])]
      exact ih (h.perform_left hp hm) hp'
    · rw [List.filter_cons_of_pos hm]
      exact ih (h.perform (by rw [hp.table]; exact ht.ends) hm) hp'

lemma opened_sim (T : Table) (seed : UInt64) (ttl : Time) (capacity least : Nat) :
    let sim := (opened T seed ttl capacity least).weave.sim
    sim.table = T ∧ sim.registry = { ttl } ∧ sim.output = { capacity } := by
  have hu := (Simulation.create seed ttl capacity T).ensureVisitors_undisturbed least
  exact ⟨hu.table, Simulation.ensureVisitors_registry _ least, hu.output⟩

lemma opened_parting (T : Table) (seed : UInt64) (ttl : Time) (capacity least : Nat) :
    (opened T seed ttl capacity least).weave.Parting T := by
  obtain ⟨ht, hr, -⟩ := opened_sim T seed ttl capacity least
  refine ⟨⟨?_, fun _ hs => absurd hs List.not_mem_nil⟩, ht, fun _ hs => absurd hs List.not_mem_nil⟩
  rw [hr]
  exact Registry.sound_empty ttl

lemma opened_alike (T : Table) (seed : UInt64) (ttl : Time) (capacity capacity' least : Nat) :
    (opened T seed ttl capacity least).Alike (opened T seed ttl capacity' least) := by
  have h : (Simulation.create seed ttl capacity T).Alike (Simulation.create seed ttl capacity' T) :=
    ⟨⟨rfl, rfl, rfl, rfl, rfl⟩, (Registry.sound_empty ttl).alike⟩
  exact ⟨⟨h.ensureVisitors least, rfl, rfl⟩, rfl⟩

/-! ### Two visitors at once -/

/-- What is told of who did what: the visitor, the action, and the places before and after. -/
def gist (e : Event) : String × Action × State × State := (e.user, e.action, e.previous, e.state)

/-- A shop with two visitors and room for all that they do. -/
def twins : Floor := opened .standard 3 60000 8 2

def twin (n : Nat) : Session :=
  let user := Visitors.idOf (n + 1)
  Session.begin (Registry.idText user 0 (n + 1)) user 0 60000

lemma advance_eq {place n : Nat} {user : String} (h : f.place? number = some place)
    (hs : f.weave.steps[place]? = some (.found user n now)) :
    f.perform (.advance number) = { f with weave := f.weave.perform (.go place) } := by
  simp only [perform, ready?_eq h hs, Stage.ready?, Option.isSome_some, if_true, go, h]

lemma conclude_eq {place : Nat} {s : Stage} (h : f.place? number = some place)
    (hs : f.weave.steps[place]? = some s) (hr : s.ready? = none) :
    f.perform (.conclude number) = { f with weave := f.weave.perform (.go place) } := by
  simp only [perform, ready?_eq h hs, hr, Option.isSome_none, Bool.false_eq_true, if_false, go, h]

/-- A visitor who has just come makes the move that is drawn. -/
lemma go_begun (w : Weave) (place n : Nat) (x : State) {a : Action}
    (hp : w.steps[place]? = some (.found (twin n).user n 0))
    (hs : w.sim.registry.session n = twin n) (ht : w.sim.table = .standard)
    (ha : (Table.standard.choose .start w.sim.engineSource).1.map (·.action) = some a)
    (hx : ∀ u ∈ Table.standard.transitions .start, u.action = a → u.target = some x) :
    ∃ sim e s, w.perform (.go place) =
        { w with sim, made := w.made ++ [Made.mk e w.unsent] }.setStage place
          (.sending w.made.length ⟨(twin n).user, e⟩ false) ∧
      gist e = ((twin n).user, a, .start, x) ∧ w.sim.Undisturbed sim ∧
      sim.registry = w.sim.registry.update n (fun _ => s) ∧
      sim.engineSource = ((twin n).step .standard 0 w.sim.engineSource).2 := by
  obtain ⟨sim, e, s, h, hact, hm, hu, hr, hsource⟩ :=
    Weave.go_makes w place hp (by rw [ht, hs]; exact ha)
  rw [ht, hs] at hm hsource
  refine ⟨sim, e, s, h, ?_, hu, hr, hsource⟩
  obtain ⟨huser, -, -, hprevious, -⟩ := hm.told
  rw [gist, huser, hm.user, hact, hprevious, hm.previous,
    hm.state_eq fun u hu ha => hx u hu (ha.trans hact)]
  rfl

/-- The visitor who moves on first clicks on a category, and the other leaves. -/
lemma go_both (w : Weave) {i j : Nat} (hij : i ≠ j)
    (hi : w.steps[i]? = some (.found (twin i).user i 0))
    (hj : w.steps[j]? = some (.found (twin j).user j 0))
    (hsi : w.sim.registry.session i = twin i) (hsj : w.sim.registry.session j = twin j)
    (ht : w.sim.table = .standard)
    (hfirst : (Table.standard.choose .start w.sim.engineSource).1.map (·.action) =
      some .categoryClicked)
    (hsecond : (Table.standard.choose .start
      ((twin i).step .standard 0 w.sim.engineSource).2).1.map (·.action) = some .exit) :
    let w' := (w.perform (.go i)).perform (.go j)
    (w.perform (.go i)).steps[j]? = some (.found (twin j).user j 0) ∧
    ∃ e e', gist e = ((twin i).user, .categoryClicked, .start, .click) ∧
      gist e' = ((twin j).user, .exit, .start, .exit) ∧ w'.events = w.events ++ [e, e'] ∧
      w'.sim.output = w.sim.output ∧
      w'.steps = (w.steps.set i (.sending w.made.length ⟨(twin i).user, e⟩ false)).set j
        (.sending (w.made.length + 1) ⟨(twin j).user, e'⟩ false) := by
  intro w'
  obtain ⟨sim, e, s, h, he, hu, hr, hsource⟩ := go_begun w i i .click hi hsi ht hfirst (by decide)
  let w₁ : Weave := { w with sim, made := w.made ++ [Made.mk e w.unsent] }.setStage i
    (.sending w.made.length ⟨(twin i).user, e⟩ false)
  have hj₁ : w₁.steps[j]? = some (.found (twin j).user j 0) :=
    (List.getElem?_set_ne hij).trans hj
  have hs₁ : w₁.sim.registry.session j = twin j := by
    show sim.registry.session j = _
    rw [hr, Registry.session_update_ne hij, hsj]
  obtain ⟨sim', e', s', h', he', hu', -, -⟩ := go_begun w₁ j j .exit hj₁ hs₁
    (hu.table.trans ht) (by rw [← hsource] at hsecond; exact hsecond) (by decide)
  have hw' : w' = { w₁ with sim := sim', made := w₁.made ++ [Made.mk e' w₁.unsent] }.setStage j
      (.sending w₁.made.length ⟨(twin j).user, e'⟩ false) := by
    show (w.perform (.go i)).perform (.go j) = _
    rw [h]
    exact h'
  refine ⟨h ▸ hj₁, e, e', he, he', ?_, ?_, ?_⟩
  · rw [hw']
    simp [Weave.events, Weave.setStage, w₁]
  · rw [hw']
    exact hu'.output.trans hu.output
  · rw [hw']
    simp [Weave.setStage, w₁]

/-- A step with room for its event is done after two more moves. -/
lemma conclude_twice {place k : Nat} {p : Pending} (h : f.place? number = some place)
    (hs : f.weave.steps[place]? = some (.sending k p false))
    (hc : f.weave.sim.output.closed = false) (hr : f.weave.sim.output.hasRoom = true) :
    let f' := f.run [.conclude number, .conclude number]
    f'.errands = f.errands ∧ f'.weave.steps = f.weave.steps.set place .ended ∧
      f'.weave.sim.output = f.weave.sim.output.push p.event := by
  have hlt : place < f.weave.steps.length := (List.getElem?_eq_some_iff.mp hs).1
  rw [run_cons, run_cons, run_nil, conclude_eq h hs rfl,
    Weave.go_sends f.weave place hs hc hr]
  generalize hw : ({ f.weave with
    sim := { f.weave.sim with output := f.weave.sim.output.push p.event }
    entered := f.weave.entered ++ [k] } : Weave) = w
  have hsteps : w.steps = f.weave.steps := by rw [← hw]
  have houtput : w.sim.output = f.weave.sim.output.push p.event := by rw [← hw]
  have hsent : (w.setStage place (.sent p true)).steps[place]? = some (.sent p true) := by
    rw [Weave.setStage, List.getElem?_set_self (by rwa [hsteps])]
  rw [conclude_eq (f := { f with weave := w.setStage place (.sent p true) }) h hsent rfl,
    Weave.perform_go hsent]
  refine ⟨rfl, ?_, (Simulation.finish_output ..).trans houtput⟩
  show ((w.steps.set place _).set place _) = _
  rw [List.set_set, hsteps]

/-- A visitor without a session is given one. -/
lemma find_new (f : Floor) (number : Nat) {user : String}
    (h : f.errands[number]? = some ⟨some user, none⟩)
    (hu : f.weave.sim.registry.users[user]? = none) (now : Time) :
    ∃ sim, f.perform (.find number now) =
        { weave :=
            { f.weave with
              sim, steps := f.weave.steps ++ [.found user f.weave.sim.registry.created.size now] }
          errands := f.errands.set number ⟨some user, some f.weave.steps.length⟩ } ∧
      f.weave.sim.Undisturbed sim ∧ sim.engineSource = f.weave.sim.engineSource ∧
      sim.registry = (f.weave.sim.registry.openSession user now).1 := by
  refine ⟨_, ?_, f.weave.sim.obtain_undisturbed user now,
    (f.weave.sim.obtain_draws user now).engineSource, ?_⟩
  · simp only [perform, h, Weave.find, f.weave.sim.obtain_new hu]
  · rw [f.weave.sim.obtain_new hu]

/-- Two visitors are drawn. -/
lemma run_draws (f : Floor) {visitor visitor' : Option String}
    (h : f.weave.sim.visitors.draws f.weave.sim.userSource 2 = [visitor, visitor']) :
    ∃ sim, f.run [.draw, .draw] =
        { weave := { f.weave with sim }
          errands := f.errands ++ [⟨visitor, none⟩] ++ [⟨visitor', none⟩] } ∧
      f.weave.sim.Undisturbed sim ∧ sim.registry = f.weave.sim.registry ∧
      sim.engineSource = f.weave.sim.engineSource := by
  obtain ⟨h₁, h₂⟩ := List.cons.inj h
  refine ⟨f.weave.sim.drawVisitor.1.drawVisitor.1, ?_, ⟨rfl, rfl, rfl, rfl⟩, rfl, rfl⟩
  rw [← h₁, ← (List.cons.inj h₂).1]
  rfl

/-- The session that is opened for a visitor of the shop. -/
lemma session_opened {r : Registry} {n : Nat} (ht : r.ttl = 60000) (hs : r.created.size = n) :
    (r.openSession (twin n).user 0).1.session n = twin n := by
  rw [← hs, Registry.session_openSession_new, Registry.newId_eq, ht]
  rfl

/-- Both visitors are found before either moves on. -/
lemma twins_found :
    ∃ sim, twins.run [.draw, .draw, .find 0 0, .find 1 0] =
        { weave := { sim, steps := [.found (twin 0).user 0 0, .found (twin 1).user 1 0] }
          errands := [⟨some (twin 0).user, some 0⟩, ⟨some (twin 1).user, some 1⟩] } ∧
      sim.table = .standard ∧ sim.output = { capacity := 8 } ∧
      sim.engineSource = twins.weave.sim.engineSource ∧
      sim.registry.session 0 = twin 0 ∧ sim.registry.session 1 = twin 1 := by
  obtain ⟨ht, hr, ho⟩ := opened_sim .standard 3 60000 8 2
  obtain ⟨sim₀, h₀, hu₀, hr₀, he₀⟩ := twins.run_draws
    (show _ = [some (twin 0).user, some (twin 1).user] by decide +kernel)
  rw [twins, hr] at hr₀
  let f₀ : Floor :=
    { weave := { sim := sim₀ }
      errands := [⟨some (twin 0).user, none⟩, ⟨some (twin 1).user, none⟩] }
  have h₀ : twins.run [.draw, .draw] = f₀ := h₀
  have hsize₀ : sim₀.registry.created.size = 0 := by rw [hr₀]; rfl
  obtain ⟨sim₁, h₁, hu₁, he₁, hr₁⟩ := f₀.find_new 0 rfl
    (show sim₀.registry.users[(twin 0).user]? = none by rw [hr₀]; simp) 0
  have hr₁ : sim₁.registry = (sim₀.registry.openSession (twin 0).user 0).1 := hr₁
  have hsize : sim₁.registry.created.size = 1 := by
    rw [hr₁, Registry.openSession_created_size, hsize₀]
  let f₁ : Floor :=
    { weave := { sim := sim₁, steps := [.found (twin 0).user 0 0] }
      errands := [⟨some (twin 0).user, some 0⟩, ⟨some (twin 1).user, none⟩] }
  have h₁ : f₀.perform (.find 0 0) = f₁ := h₁.trans (by rw [hsize₀]; rfl)
  have hnew : sim₁.registry.users[(twin 1).user]? = none := by
    have hne : ((twin 0).user == (twin 1).user) = false := by decide +kernel
    simp [hr₁, hr₀, Registry.openSession, hne]
  obtain ⟨sim₂, h₂, hu₂, he₂, hr₂⟩ := f₁.find_new 1 rfl hnew 0
  have hr₂ : sim₂.registry = (sim₁.registry.openSession (twin 1).user 0).1 := hr₂
  have hu := (hu₀.trans hu₁).trans hu₂
  refine ⟨sim₂, ?_, hu.table.trans ht, hu.output.trans ho, (he₂.trans he₁).trans he₀, ?_, ?_⟩
  · calc twins.run [.draw, .draw, .find 0 0, .find 1 0]
      _ = f₀.run [.find 0 0, .find 1 0] := by rw [← h₀, ← run_append]; rfl
      _ = f₁.perform (.find 1 0) := by rw [run_cons, h₁]; rfl
      _ = _ := h₂.trans (by rw [hsize]; rfl)
  · rw [hr₂, Registry.session_openSession_old _ _ (by rw [hsize]; decide), hr₁]
    exact session_opened (by rw [hr₀]) hsize₀
  · rw [hr₂]
    exact session_opened (by rw [hr₁, hr₀]; rfl) hsize

/-- Both steps have found their visitors when the first of them moves on. -/
def overlap (first second : Nat) : List Move :=
  [.draw, .draw, .find 0 0, .find 1 0, .advance first, .advance second]

def ending : List Move := [.conclude 0, .conclude 0, .conclude 1, .conclude 1]

/-- What the seed has the first and the second visitor do who move on, whoever they are. -/
lemma twins_choices {n : Nat} (hn : n = 0 ∨ n = 1) :
    let source := twins.weave.sim.engineSource
    (Table.standard.choose .start source).1.map (·.action) = some .categoryClicked ∧
      (Table.standard.choose .start ((twin n).step .standard 0 source).2).1.map (·.action) =
        some .exit := by
  refine ⟨by decide +kernel, ?_⟩
  rcases hn with rfl | rfl <;> decide +kernel

/-- Whoever moves on first clicks on a category. -/
lemma run_overlap {i j : Nat} (hij : i = 0 ∧ j = 1 ∨ i = 1 ∧ j = 0) :
    let f := twins.run (overlap i j)
    ∃ e e', gist e = ((twin i).user, .categoryClicked, .start, .click) ∧
      gist e' = ((twin j).user, .exit, .start, .exit) ∧ f.weave.events = [e, e'] ∧
      f.weave.sim.output = { capacity := 8 } ∧ f.place? 0 = some 0 ∧ f.place? 1 = some 1 ∧
      f.weave.steps =
        ([Stage.found (twin 0).user 0 0, .found (twin 1).user 1 0].set i
          (.sending 0 ⟨(twin i).user, e⟩ false)).set j (.sending 1 ⟨(twin j).user, e'⟩ false) := by
  obtain ⟨sim, hrun, ht, ho, hsource, hs₀, hs₁⟩ := twins_found
  let w : Weave := { sim, steps := [.found (twin 0).user 0 0, .found (twin 1).user 1 0] }
  let f₀ : Floor :=
    { weave := w, errands := [⟨some (twin 0).user, some 0⟩, ⟨some (twin 1).user, some 1⟩] }
  have hrun : twins.run [.draw, .draw, .find 0 0, .find 1 0] = f₀ := hrun
  have hplace : ∀ (w : Weave) n, n = 0 ∨ n = 1 →
      ({ f₀ with weave := w } : Floor).place? n = some n := by
    rintro w n (rfl | rfl) <;> rfl
  have hfound : ∀ n, n = 0 ∨ n = 1 → w.steps[n]? = some (.found (twin n).user n 0) ∧
      w.sim.registry.session n = twin n := by
    rintro n (rfl | rfl)
    · exact ⟨rfl, hs₀⟩
    · exact ⟨rfl, hs₁⟩
  have hi : i = 0 ∨ i = 1 := by omega
  have hj : j = 0 ∨ j = 1 := by omega
  have hne : i ≠ j := by omega
  obtain ⟨hfirst, hsecond⟩ := twins_choices hi
  rw [← hsource] at hfirst hsecond
  obtain ⟨hnext, e, e', he, he', hevents, hout, hsteps⟩ := go_both w hne (hfound i hi).1
    (hfound j hj).1 (hfound i hi).2 (hfound j hj).2 ht hfirst hsecond
  have hf : twins.run (overlap i j) =
      { f₀ with weave := (w.perform (.go i)).perform (.go j) } :=
    calc twins.run (overlap i j)
      _ = f₀.run [.advance i, .advance j] := by rw [← hrun, ← run_append]; rfl
      _ = ({ f₀ with weave := w.perform (.go i) } : Floor).perform (.advance j) := by
          rw [run_cons, advance_eq (hplace w i hi) (hfound i hi).1, run_cons, run_nil]
      _ = _ := advance_eq (hplace _ j hj) hnext
  intro f
  rw [show f = _ from hf]
  exact ⟨e, e', he, he', hevents, hout.trans ho, hplace _ 0 (.inl rfl), hplace _ 1 (.inr rfl),
    hsteps⟩

/-- Both steps have room for their events. -/
lemma run_ending {k k' : Nat} {p p' : Pending} (h₀ : f.place? 0 = some 0) (h₁ : f.place? 1 = some 1)
    (hs : f.weave.steps = [.sending k p false, .sending k' p' false])
    (ho : f.weave.sim.output = { capacity := 8 }) :
    (f.run ending).weave.steps = [.ended, .ended] ∧
      (f.run ending).weave.sim.output.items = [p.event, p'.event] := by
  obtain ⟨he₁, hs₁, ho₁⟩ := conclude_twice h₀ (by rw [hs]; rfl) (by rw [ho]) (by rw [ho]; rfl)
  rw [hs] at hs₁
  rw [ho] at ho₁
  have hplace : (f.run [.conclude 0, .conclude 0]).place? 1 = some 1 := by
    rw [place?, he₁]
    exact h₁
  obtain ⟨-, hs₂, ho₂⟩ := conclude_twice hplace (by rw [hs₁]; rfl) (by rw [ho₁]; rfl)
    (by rw [ho₁]; rfl)
  have hf : f.run ending = (f.run [.conclude 0, .conclude 0]).run [.conclude 1, .conclude 1] := rfl
  rw [hf, hs₂, ho₂, hs₁, ho₁]
  exact ⟨rfl, rfl⟩

/-! ### What a seed fixes -/

/-- **What a seed fixes.** The visitors of a run come in the order in which the seed draws them,
however the steps overlap. And where visitors leave for good, two runs with the same seed make the
same events, one by one, if their steps draw visitors, look sessions up and move them on in the same
order, with the same sweeps. It does not matter when the events are sent and taken out of the queue,
how much room it has, when it is closed, or when the steps end. -/
theorem run_events {T : Table} (ht : T.LeavesForGood) (seed : UInt64) (ttl : Time)
    (capacity capacity' least : Nat) :
    let f := opened T seed ttl capacity least
    let f' := opened T seed ttl capacity' least
    (∀ moves, (f.run moves).drawn =
      f.weave.sim.visitors.draws f.weave.sim.userSource (moves.count .draw)) ∧
    ∀ moves moves', moves.filter Move.isLocked = moves'.filter Move.isLocked →
      (f.run moves).weave.events = (f'.run moves').weave.events := by
  intro f f'
  have hbare : ∀ capacity moves, ((opened T seed ttl capacity least).run moves).Alike
      ((opened T seed ttl 0 least).run (moves.filter Move.isLocked)) := fun capacity moves =>
    (opened_alike T seed ttl capacity 0 least).run_left (opened_parting ..) ht moves
  refine ⟨f.run_drawn, fun moves moves' h => ?_⟩
  have hb := hbare capacity moves
  rw [h] at hb
  exact hb.weave.events.symm.trans (hbare capacity' moves').weave.events

/-- One of the steps is over before the other moves on, and the queue is closed then. -/
theorem run_events_twins :
    let late := overlap 0 1 ++ ending
    let early : List Move :=
      [.draw, .draw, .find 0 0, .find 1 0, .advance 0, .conclude 0, .conclude 0, .close, .advance 1]
    let f := twins.run late
    let f' := (opened .standard 3 60000 1 2).run early
    Table.standard.LeavesForGood ∧ late.filter Move.isLocked = early.filter Move.isLocked ∧
      f.drawn = [some "user_1", some "user_2"] ∧ f.weave.events = f'.weave.events ∧
      f.weave.events.map gist =
        [("user_1", .categoryClicked, .browsing, .click), ("user_2", .exit, .browsing, .exit)] := by
  intro late early f f'
  have ht := Table.standard_leavesForGood
  have hlocked : late.filter Move.isLocked = early.filter Move.isLocked := by decide
  obtain ⟨hdrawn, hevents⟩ := run_events ht 3 60000 8 1 2
  obtain ⟨-, hsame⟩ := run_events ht 3 60000 8 8 2
  obtain ⟨e, e', he, he', hmade, -⟩ := run_overlap (i := 0) (j := 1) (by decide)
  refine ⟨ht, hlocked, (hdrawn late).trans (by decide +kernel), hevents late early hlocked, ?_⟩
  have hmoved : f.weave.events = [e, e'] := (hsame late (overlap 0 1) (by decide)).trans hmade
  rw [hmoved]
  simp only [List.map_cons, List.map_nil, he, he']
  decide +kernel

/-- The seed is the same and each step does the same in the same order. If the other step moves on
first, the other visitor leaves. -/
theorem run_events_swapped :
    let moves := overlap 0 1 ++ ending
    let moves' := overlap 1 0 ++ ending
    let f := twins.run moves
    let f' := twins.run moves'
    moves.Perm moves' ∧
      (∀ n, moves.filter (·.number? = some n) = moves'.filter (·.number? = some n)) ∧
      f.weave.steps = [.ended, .ended] ∧ f'.weave.steps = [.ended, .ended] ∧
      f.weave.sim.output.items.map gist =
        [("user_1", .categoryClicked, .browsing, .click), ("user_2", .exit, .browsing, .exit)] ∧
      f'.weave.sim.output.items.map gist =
        [("user_1", .exit, .browsing, .exit), ("user_2", .categoryClicked, .browsing, .click)] ∧
      ¬ (f.weave.sim.output.items.map gist).Perm (f'.weave.sim.output.items.map gist) := by
  intro moves moves' f f'
  obtain ⟨e, e', he, he', -, ho, h₀, h₁, hs⟩ := run_overlap (i := 0) (j := 1) (by decide)
  obtain ⟨d, d', hd, hd', -, ho', h₀', h₁', hs'⟩ := run_overlap (i := 1) (j := 0) (by decide)
  obtain ⟨hended, hsent⟩ := run_ending h₀ h₁ hs ho
  obtain ⟨hended', hsent'⟩ := run_ending h₀' h₁' hs' ho'
  have hf : f = (twins.run (overlap 0 1)).run ending := run_append ..
  have hf' : f' = (twins.run (overlap 1 0)).run ending := run_append ..
  rw [← hf] at hended hsent
  rw [← hf'] at hended' hsent'
  have hgist : f.weave.sim.output.items.map gist =
      [("user_1", .categoryClicked, .browsing, .click), ("user_2", .exit, .browsing, .exit)] := by
    rw [hsent]
    simp only [List.map_cons, List.map_nil, he, he']
    decide +kernel
  have hgist' : f'.weave.sim.output.items.map gist =
      [("user_1", .exit, .browsing, .exit), ("user_2", .categoryClicked, .browsing, .click)] := by
    rw [hsent']
    simp only [List.map_cons, List.map_nil, hd, hd']
    decide +kernel
  refine ⟨by decide, fun n => ?_, hended, hended', hgist, hgist', ?_⟩
  · match n with
    | 0 | 1 => decide
    | n + 2 => rfl
  · rw [hgist, hgist']
    decide

end Floor

end ShopTraffic
