import ShopTraffic.Clockwork

/-!
What a target rate means for each tick. The steps of a second are shared out among its ticks, and
the steps of a tick among the workers, rounding down but never below one.
-/

namespace ShopTraffic

/-- The work of a tick. The tick is a span of virtual time, the rate is in steps a second. -/
structure Plan where
  rate : Nat
  tick : Instant
  workers : Nat
  ticksPerSecond : Nat
  stepsPerTick : Nat
  batch : Nat
  deriving DecidableEq, Repr, Inhabited

namespace Plan

/-- The whole milliseconds of a tick, at least one, in 64 bits. -/
def tickMs (tick : Instant) : Nat := max 1 (tick / nanosPerMs) % 2 ^ (64 : Nat)

/-- The plan for a rate; none if the milliseconds of the tick are cut down to zero. -/
def make? (rate : Nat) (tick : Instant) (workers : Nat) : Option Plan :=
  if tickMs tick = 0 then none
  else
    let ticksPerSecond := max 1 (1000 / tickMs tick)
    let stepsPerTick := max 1 (rate / ticksPerSecond)
    let workers := max 1 workers
    some { rate, tick, workers, ticksPerSecond, stepsPerTick,
           batch := max 1 (stepsPerTick / workers) }

/-- The rate that is really sent out, in 64 bits. -/
def effectiveRate (p : Plan) : Nat := p.batch * p.workers * p.ticksPerSecond % 2 ^ (64 : Nat)

/-- The least number of visitors: twice the rate, so that few of them come up twice in a row. -/
def userFloor (p : Plan) : Nat := min (2 * p.rate) (2 ^ (64 : Nat) - 1)

end Plan

end ShopTraffic
