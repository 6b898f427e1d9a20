import ShopTraffic.Random.Uniform

/-!
A choice among weighted entries. The running sums of the weights cut the interval up to their
total; a point drawn from that interval chooses the first entry whose running sum lies above it.
-/

namespace ShopTraffic.Random

/-- The running sums of a list of weights: all but the last, and the last. -/
structure Weighted where
  bounds : List Float
  total : Float
  deriving DecidableEq, Repr

namespace Weighted

/-- Running sums from `acc` on; `none` if a weight is negative or no number. -/
def sumsFrom (acc : Float) : List Float → Option Weighted
  | [] => some ⟨[], acc⟩
  | w :: ws =>
    if w ≥ 0 then (sumsFrom (acc + w) ws).map fun s => { s with bounds := acc :: s.bounds }
    else none

def sums : List Float → Option Weighted
  | [] => none
  | w :: ws => if w ≥ 0 then sumsFrom w ws else none

/-- The choice that belongs to a list of weights; none without a positive total. -/
def ofWeights? (ws : List Float) : Option Weighted :=
  (sums ws).filter fun s => !(s.total == 0)

/-- The total of these weights is beyond every float, so that nothing can be drawn below it. -/
def overflows (ws : List Float) : Bool :=
  (ofWeights? ws).any fun s => !s.total.isFinite

/-- The largest factor, from the given bits down, whose products with fractions stay below
`total`. -/
def factorFrom (total : Float) (bits : UInt64) : Float :=
  if h : bits = 0 then 0
  else if Float.ofBits bits * Float.ofBits 0x3FEFFFFFFFFFFFFE ≥ total then
    factorFrom total (bits - 1)
  else Float.ofBits bits
termination_by bits.toNat
decreasing_by
  have h0 : bits.toNat ≠ 0 := fun e => h (UInt64.toNat_inj.1 (by simpa using e))
  have h1 : (1 : UInt64) ≤ bits := by
    rw [UInt64.le_iff_toNat_le]
    simp only [UInt64.toNat_one]
    omega
  rw [UInt64.toNat_sub_of_le _ _ h1]
  simp only [UInt64.toNat_one]
  omega

def factor (s : Weighted) : Float := factorFrom s.total s.total.toBits

/-- The index of the entry that the point `v` chooses. -/
def indexAt (s : Weighted) (v : Float) : Nat := (s.bounds.takeWhile (· ≤ v)).length

def draw (s : Weighted) : Draw Nat := do
  return s.indexAt ((← Draw.fraction) * s.factor + 0)

end Weighted

end ShopTraffic.Random
