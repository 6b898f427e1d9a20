import ShopTraffic.Random.Keystream

/-!
A random source is a place in a keystream. Draws move it forward by whole words; two sources that
are equal give the same draws for ever. `Draw` is the monad of computations that draw.
-/

namespace ShopTraffic.Random

/-- A place in a keystream: the words of the current block that are left, and the next block. -/
structure Source where
  key : Key
  block : UInt64
  pending : List UInt32
  deriving DecidableEq, Repr

def Source.seeded (seed : UInt64) : Source := ⟨Key.ofSeed seed, 0, []⟩

instance : Inhabited Source := ⟨Source.seeded 0⟩

def Source.next (s : Source) : UInt32 × Source :=
  match s.pending with
  | w :: ws => (w, { s with pending := ws })
  | [] =>
    let m := s.key.block s.block
    (m.x0, { s with block := s.block + 1, pending := m.rest })

/-- A computation that draws from a random source. -/
abbrev Draw := StateM Source

namespace Draw

def word32 : Draw UInt32 := Source.next

/-- Two words, the low one first. -/
def word64 : Draw UInt64 := do
  let low ← word32
  let high ← word32
  return (high.toUInt64 <<< 32) ||| low.toUInt64

/-- A source of its own, whose seed is drawn from this one. -/
def fork : Draw Source := do
  let seed ← word64
  return Source.seeded seed

end Draw

end ShopTraffic.Random
