import Mathlib.Algebra.BigOperators.Group.List.Basic
import Mathlib.Algebra.GroupWithZero.Nat
import Mathlib.Data.List.Perm.Basic
import ShopTraffic.Proofs.Random.Uniform
import ShopTraffic.Simulation

/-!
Several callers ask for visitors at once. A caller looks whether there are too few, and if so, looks
again and adds what is then missing; between its two looks others may do the same, and visitors are
drawn. What a caller saw at its first look may be long out of date, but only the second look counts:
the pool is numbered without a gap at every moment, and it has grown by what the callers were told.
-/

namespace ShopTraffic

open ShopTraffic.Random

namespace Visitors

def numbered (n : Nat) : Visitors := ⟨((List.range' 1 n).map idOf).toArray⟩

@[simp] lemma size_numbered (n : Nat) : (numbered n).size = n := by
  simp [numbered, size]

lemma extend_numbered (n least : Nat) : (numbered n).extend least = numbered (max n least) := by
  have hrange : List.range' 1 (max n least) =
      List.range' 1 n ++ List.range' (n + 1) (least - n) := by
    rw [show max n least = n + (least - n) by omega, ← List.range'_append_1, Nat.add_comm 1]
  rw [extend, size_numbered]
  simp [numbered, hrange]

/-- Whoever asks for visitors gets those that are missing. -/
lemma ensure_numbered (n least : Nat) :
    (numbered n).ensure least = (numbered (max n least), least - n) := by
  unfold ensure isShort
  by_cases h : n < least
  · simp [h, extend_numbered]
  · simp [h, show max n least = n by omega, show least - n = 0 by omega]

/-- Nobody is drawn from an empty pool, and one of the visitors from any other. -/
def Draws (n : Nat) (found : Option String) : Prop :=
  (found = none ↔ n = 0) ∧ ∀ id, found = some id → ∃ k, 1 ≤ k ∧ k ≤ n ∧ id = idOf k

lemma draw_numbered (n : Nat) : Draw.Always (Draws n) (numbered n).draw := by
  unfold draw Draw.index
  rw [size_numbered]
  by_cases hn : n = 0
  · subst hn
    exact Draw.always_pure ⟨by simp, nofun⟩
  · rw [if_neg hn, bind_assoc]
    refine (Draw.scaled_lt _ (by omega) _ _).bind fun i hi => Draw.always_pure ?_
    have hid : (numbered n).ids[i]? = some (idOf (1 + i)) := by simp [numbered, hi]
    refine ⟨by simp [hid, hn], fun id h => ⟨1 + i, by omega, by omega, ?_⟩⟩
    simpa [hid] using h.symm

end Visitors

/-- A call that has returned: how many visitors it asked for, and how many it has added. -/
structure Reply where
  least : Nat
  added : Nat
  deriving DecidableEq, Repr

structure Drawn where
  size : Nat
  found : Option String

structure Pool where
  visitors : Visitors
  source : Source
  /-- What the calls ask for that have found too few visitors and are to look again. -/
  short : List Nat := []
  replies : List Reply := []
  drawn : List Drawn := []

namespace Pool

inductive Move
  /-- A call begins with its first look. -/
  | ask (least : Nat)
  /-- The call with this place among those that found too few looks again, and adds what is
  missing. -/
  | grow (place : Nat)
  | draw
  /-- From here on other numbers are drawn. -/
  | reseed (source : Source)

def Move.ask? : Move → Option Nat
  | .ask least => some least
  | .grow _ | .draw | .reseed _ => none

/-- What is asked for in these moves, in the order of the first looks. -/
def asks (moves : List Move) : List Nat := moves.filterMap Move.ask?

def perform (p : Pool) : Move → Pool
  | .ask least =>
    if p.visitors.isShort least then { p with short := p.short ++ [least] }
    else { p with replies := p.replies ++ [⟨least, 0⟩] }
  | .grow place =>
    match p.short[place]? with
    | none => p
    | some least =>
      let (visitors, added) := p.visitors.ensure least
      { p with
        visitors, short := p.short.eraseIdx place, replies := p.replies ++ [⟨least, added⟩] }
  | .draw =>
    let (found, source) := p.visitors.draw p.source
    { p with source, drawn := p.drawn ++ [⟨p.visitors.size, found⟩] }
  | .reseed source => { p with source }

def run (p : Pool) (moves : List Move) : Pool := moves.foldl perform p

@[simp] lemma run_nil (p : Pool) : p.run [] = p := rfl

@[simp] lemma run_cons (p : Pool) (m : Move) (moves : List Move) :
    p.run (m :: moves) = (p.perform m).run moves := rfl

/-- A pool with so many visitors that nobody has asked for more yet. -/
def start (n : Nat) (source : Source) : Pool := { visitors := .numbered n, source }

/-- The most that was asked for or was there. -/
def most (n : Nat) (asked : List Nat) : Nat := asked.foldr max n

lemma most_le_iff {n m : Nat} {asked : List Nat} :
    most n asked ≤ m ↔ n ≤ m ∧ ∀ least ∈ asked, least ≤ m := by
  induction asked with
  | nil => simp [most]
  | cons a asked ih =>
    have hcons : most n (a :: asked) = max a (most n asked) := rfl
    rw [hcons, Nat.max_le, ih, List.forall_mem_cons]
    tauto

/-- The pool has come of one with `n` visitors, and so many were asked for on the way. -/
structure Grown (n : Nat) (asked : List Nat) (p : Pool) : Prop where
  numbered : p.visitors = .numbered p.visitors.size
  /-- Every call is still to look again or has its reply. -/
  calls : (p.short ++ p.replies.map (·.least)).Perm asked
  bounded : p.visitors.size ≤ most n asked
  enough : ∀ r ∈ p.replies, r.least ≤ p.visitors.size
  added : n + (p.replies.map (·.added)).sum = p.visitors.size
  draws : ∀ d ∈ p.drawn, Visitors.Draws d.size d.found

variable {n : Nat} {asked : List Nat} {p : Pool}

lemma le_most {least : Nat} (h : least ∈ asked) : least ≤ most n asked :=
  (most_le_iff.mp (Nat.le_refl _)).2 least h

lemma most_le_concat (n : Nat) (asked : List Nat) (least : Nat) :
    most n asked ≤ most n (asked ++ [least]) := by
  obtain ⟨hn, hall⟩ := most_le_iff.mp (Nat.le_refl (most n (asked ++ [least])))
  exact most_le_iff.mpr ⟨hn, fun a ha => hall a (List.mem_append_left _ ha)⟩

lemma Grown.ask (h : p.Grown n asked) (least : Nat) :
    (p.perform (.ask least)).Grown n (asked ++ [least]) := by
  have hmost := Nat.le_trans h.bounded (most_le_concat n asked least)
  by_cases hs : p.visitors.size < least
  · have hp : p.perform (.ask least) = { p with short := p.short ++ [least] } := by
      simp [Pool.perform, Visitors.isShort, hs]
    rw [hp]
    refine { h with calls := ?_, bounded := hmost }
    have hswap : (p.short ++ [least] ++ p.replies.map (·.least)).Perm
        (p.short ++ p.replies.map (·.least) ++ [least]) := by
      simpa using (List.perm_append_singleton least (p.replies.map (·.least))).symm.append_left
        p.short
    exact hswap.trans (h.calls.append_right [least])
  · have hp : p.perform (.ask least) = { p with replies := p.replies ++ [⟨least, 0⟩] } := by
      simp [Pool.perform, Visitors.isShort, hs]
    rw [hp]
    refine { h with calls := ?_, bounded := hmost, enough := ?_, added := ?_ }
    · simpa using h.calls.append_right [least]
    · intro r hr
      rcases List.mem_append.mp hr with hr | hr
      · exact h.enough r hr
      · rw [List.mem_singleton.mp hr]
        exact Nat.le_of_not_lt hs
    · simpa using h.added

/-- The second look starts from what is there by then. -/
lemma Grown.perform_grow (h : p.Grown n asked) {place least : Nat}
    (hc : p.short[place]? = some least) :
    p.perform (.grow place) =
      { p with
        visitors := .numbered (max p.visitors.size least), short := p.short.eraseIdx place
        replies := p.replies ++ [⟨least, least - p.visitors.size⟩] } := by
  have he : p.visitors.ensure least =
      (.numbered (max p.visitors.size least), least - p.visitors.size) := by
    conv_lhs => rw [h.numbered]
    exact Visitors.ensure_numbered _ _
  simp only [Pool.perform, hc, he]

lemma perform_grow_none {place : Nat} (hc : p.short[place]? = none) :
    p.perform (.grow place) = p := by
  simp only [Pool.perform, hc]

lemma Grown.grow (h : p.Grown n asked) (place : Nat) :
    (p.perform (.grow place)).Grown n asked := by
  rcases hc : p.short[place]? with _ | least
  · rwa [perform_grow_none hc]
  obtain ⟨hplace, hget⟩ := List.getElem?_eq_some_iff.mp hc
  have hperm : (least :: p.short.eraseIdx place).Perm p.short := by
    simpa [hget] using List.getElem_cons_eraseIdx_perm hplace
  have hasked : least ∈ asked :=
    h.calls.subset (List.mem_append_left _ (hperm.subset List.mem_cons_self))
  have hadded := h.added
  rw [h.perform_grow hc]
  constructor <;> simp only [Visitors.size_numbered, List.map_append, List.map_cons, List.map_nil]
  · have hlast : (p.short.eraseIdx place ++ (p.replies.map (·.least) ++ [least])).Perm
        (least :: p.short.eraseIdx place ++ p.replies.map (·.least)) := by
      simpa using List.perm_append_singleton least
        (p.short.eraseIdx place ++ p.replies.map (·.least))
    exact hlast.trans ((hperm.append_right _).trans h.calls)
  · exact Nat.max_le.mpr ⟨h.bounded, le_most hasked⟩
  · intro r hr
    rcases List.mem_append.mp hr with hr | hr
    · exact Nat.le_trans (h.enough r hr) (Nat.le_max_left _ _)
    · rw [List.mem_singleton.mp hr]
      exact Nat.le_max_right _ _
  · rw [List.sum_append, List.sum_singleton]
    omega
  · exact h.draws

lemma Grown.draw (h : p.Grown n asked) : (p.perform .draw).Grown n asked := by
  refine { h with draws := fun d hd => ?_ }
  rcases List.mem_append.mp hd with hd | hd
  · exact h.draws d hd
  · rw [List.mem_singleton.mp hd]
    have := Visitors.draw_numbered p.visitors.size p.source
    rwa [← h.numbered] at this

/-- **Every move keeps the pool in order.** -/
lemma Grown.perform (h : p.Grown n asked) (m : Move) :
    (p.perform m).Grown n (asked ++ m.ask?.toList) := by
  cases m with
  | ask least => exact h.ask least
  | grow place => simpa [Move.ask?] using h.grow place
  | draw => simpa [Move.ask?] using h.draw
  | reseed source => simpa [Move.ask?] using { h with }

lemma Grown.run (h : p.Grown n asked) (moves : List Move) :
    (p.run moves).Grown n (asked ++ asks moves) := by
  induction moves generalizing p asked with
  | nil => simpa [asks] using h
  | cons m moves ih =>
    have hm := ih (h.perform m)
    rw [List.append_assoc] at hm
    cases m <;> exact hm

/-- **A caller that is alone** gets what the simulation gives it at once. -/
lemma run_ask_grow (p : Pool) (sim : Simulation) (hv : p.visitors = sim.visitors) (least : Nat) :
    let q := p.run [.ask least, .grow p.short.length]
    q.visitors = (sim.ensureVisitors least).1.visitors ∧
      q.replies = p.replies ++ [⟨least, (sim.ensureVisitors least).2⟩] := by
  by_cases hs : sim.visitors.size < least
  · simp [perform, hv, Visitors.isShort, hs, Visitors.ensure, Simulation.ensureVisitors,
      Simulation.note]
  · simp [perform, hv, Visitors.isShort, hs, Simulation.ensureVisitors]

end Pool

end ShopTraffic
