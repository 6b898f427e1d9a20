/-!
Virtual time. A machine has moves that take no time, and a time at which it wants to go on when none
of them is possible. A run makes moves while there are any, and lets time pass only when all is
still; so what happens depends on nothing but the machine.
-/

namespace ShopTraffic

-- Powers of numbers are the core library's in definitions, also where the powers of monoids are
-- known. A numeral in an exponent needs its type beside it for that: without one, the powers of
-- monoids are the default there.
attribute [scoped instance (1100)] instPowNat

/-- Instants and spans of virtual time are counted in nanoseconds. -/
abbrev Instant := Nat

def nanosPerMs : Nat := 1000000

def nanosPerSec : Nat := 1000000000

/-- Timers go off at whole milliseconds, never too early. -/
def wholeMs (t : Instant) : Instant := (t + (nanosPerMs - 1)) / nanosPerMs * nanosPerMs

/-- The earlier of two deadlines, of which there may be fewer. -/
def sooner : Option Instant → Option Instant → Option Instant
  | none, b => b
  | some a, none => some a
  | some a, some b => some (min a b)

/-- A machine with states `σ` and moves `μ`. -/
structure Clockwork (σ μ : Type) where
  /-- A move that is possible now. -/
  choose : σ → Option μ
  perform : μ → σ → σ
  instant : σ → Instant
  setInstant : Instant → σ → σ
  /-- When a move becomes possible by the passing of time alone. -/
  deadline : σ → Option Instant

namespace Clockwork

variable {σ μ : Type}

/-- Runs until `done` holds or the limit is reached, whichever comes first; without a limit and with
nothing left to wait for, the run ends. The first number bounds the moves and pauses. -/
def run (c : Clockwork σ μ) (done : σ → Bool) (limit : Option Instant) : Nat → σ → σ
  | 0, s => s
  | fuel + 1, s =>
    if done s then s
    else
      match c.choose s with
      | some m => run c done limit fuel (c.perform m s)
      | none =>
        match c.deadline s, limit with
        | some d, some l =>
          if d < l then run c done limit fuel (c.setInstant (max d (c.instant s)) s)
          else c.setInstant l s
        | some d, none => run c done limit fuel (c.setInstant (max d (c.instant s)) s)
        | none, some l => c.setInstant l s
        | none, none => s

/-- More moves than any run makes. -/
def patience : Nat := 2 ^ (62 : Nat)

end Clockwork

end ShopTraffic
