import Mathlib.Data.List.Perm.Basic
import ShopTraffic.Proofs.Simulation.Parts

/-!
Steps of one simulation that overlap. A step is under way from its beginning until its event was
sent or refused, and that can take any time; meanwhile other steps begin and end, events are taken
out of the queue, sessions are swept and looked up.
-/

namespace ShopTraffic

/-- A step that has begun; it waits if the queue was full when it tried to send. -/
structure Underway where
  step : Pending
  waits : Bool := false

structure Crowd where
  sim : Simulation
  underway : List Underway := []

namespace Crowd

open ShopTraffic.Random

inductive Move
  | begin (now : Time)
  /-- The step with this place among those under way sends its event, if that is possible. -/
  | send (place : Nat)
  | receive
  | close
  | sweep (now : Time)
  | lookUp (user : String) (now : Time)
  | grow (least : Nat)

/-- A step tries to send, or to go on sending; the answer says whether it has ended. -/
def attempt (sim : Simulation) (u : Underway) : Simulation × Bool :=
  if u.waits then
    match sim.resume? u.step with
    | some (sim, _) => (sim, true)
    | none => (sim, false)
  else
    match sim.send u.step with
    | (sim, .finished _) => (sim, true)
    | (sim, .blocked) => (sim, false)

def perform (c : Crowd) : Move → Crowd
  | .begin now =>
    match c.sim.begin now with
    | (sim, .inl _) => { c with sim }
    | (sim, .inr p) => { sim, underway := c.underway ++ [{ step := p }] }
  | .send place =>
    match c.underway[place]? with
    | none => c
    | some u =>
      match attempt c.sim u with
      | (sim, true) => { sim, underway := c.underway.eraseIdx place }
      | (sim, false) => { sim, underway := c.underway.set place { u with waits := true } }
  | .receive =>
    match c.sim.output.pop with
    | none => c
    | some (_, output) => { c with sim := { c.sim with output } }
  | .close => { c with sim := { c.sim with output := c.sim.output.close } }
  | .sweep now => { c with sim := (c.sim.sweep now).1 }
  | .lookUp user now => { c with sim := (c.sim.obtain user now).1 }
  | .grow least => { c with sim := (c.sim.ensureVisitors least).1 }

def run (c : Crowd) (moves : List Move) : Crowd := moves.foldl perform c

@[simp] lemma run_nil (c : Crowd) : c.run [] = c := rfl

@[simp] lemma run_cons (c : Crowd) (m : Move) (moves : List Move) :
    c.run (m :: moves) = (c.perform m).run moves := rfl

def start (ttl : Time) (capacity : Nat) (visitors : Visitors) (users engine payloads : Source) :
    Crowd where
  sim :=
    { table := .standard, visitors, registry := { ttl }, userSource := users
      engineSource := engine, payloadSource := payloads, output := { capacity } }

def steps (c : Crowd) : List Pending := c.underway.map Underway.step

variable {c : Crowd} {place : Nat}

lemma steps_wait (sim : Simulation) (h : place < c.underway.length) :
    steps ⟨sim, c.underway.set place { c.underway[place] with waits := true }⟩ = c.steps := by
  unfold steps
  conv_rhs => rw [← List.set_getElem_self h]
  rw [List.map_set, List.map_set]

lemma steps_erase (sim : Simulation) (h : place < c.underway.length) :
    (c.underway[place].step :: steps ⟨sim, c.underway.eraseIdx place⟩).Perm c.steps :=
  (List.getElem_cons_eraseIdx_perm h).map Underway.step

/-! ### Sending -/

/-- An attempt either leaves everything but the queue as it is, or finishes the step. -/
lemma attempt_cases (sim : Simulation) (u : Underway) :
    (∃ output, attempt sim u = ({ sim with output }, false)) ∨
    ∃ output sent, attempt sim u = (({ sim with output }.finish u.step sent).1, true) := by
  unfold attempt Simulation.resume? Simulation.send
  split_ifs with h₁ h₂ h₃ h₂ h₃
  · exact .inr ⟨sim.output.abandon, false, rfl⟩
  · exact .inr ⟨sim.output.deliver u.step.event, true, rfl⟩
  · exact .inl ⟨sim.output, rfl⟩
  · exact .inr ⟨sim.output, false, rfl⟩
  · exact .inr ⟨sim.output.push u.step.event, true, rfl⟩
  · exact .inl ⟨sim.output.wait, rfl⟩

/-- What an attempt that ends the step does to the registry. -/
lemma attempt_ended {sim : Simulation} {u : Underway} (h : (attempt sim u).2 = true) :
    (attempt sim u).1.table = sim.table ∧
    (attempt sim u).1.completed =
      sim.completed + (if u.step.event.action.endsSession then 1 else 0) ∧
    (attempt sim u).1.registry =
      if u.step.event.action.endsSession then
        (sim.registry.delete u.step.user u.step.event.session).1
      else sim.registry := by
  rcases attempt_cases sim u with ⟨output, e⟩ | ⟨output, sent, e⟩ <;> rw [e] at h ⊢
  · cases h
  · exact ⟨Simulation.finish_table _ _ _, Simulation.finish_completed _ _ _,
      Simulation.finish_registry _ _ _⟩

lemma attempt_blocked {sim : Simulation} {u : Underway} (h : (attempt sim u).2 = false) :
    (attempt sim u).1.table = sim.table ∧ (attempt sim u).1.completed = sim.completed ∧
      (attempt sim u).1.registry = sim.registry := by
  rcases attempt_cases sim u with ⟨output, e⟩ | ⟨output, sent, e⟩ <;> rw [e] at h ⊢
  · exact ⟨rfl, rfl, rfl⟩
  · cases h

lemma perform_send_sim {u : Underway} (h : c.underway[place]? = some u) :
    (c.perform (.send place)).sim = (attempt c.sim u).1 := by
  simp only [perform, h]
  rcases attempt c.sim u with ⟨sim, _ | _⟩ <;> rfl

end Crowd

end ShopTraffic
