import ShopTraffic.Random.Source

/-!
Uniform draws. An integer below `n` is the high half of the product of a raw word with `n`; raw
words whose low half lies above a zone are refused, so that every result is hit by equally many
words. The number of refusals in a row is capped, and the last word is then taken as it is.
-/

namespace ShopTraffic.Random

inductive IntKind
  | u8 | u16 | u32 | i32 | u64 | i64
  deriving DecidableEq, Repr

namespace IntKind

def bits : IntKind → Nat
  | u8 => 8 | u16 => 16 | u32 => 32 | i32 => 32 | u64 => 64 | i64 => 64

/-- The number of bits of the raw word behind a draw. -/
def rawBits (k : IntKind) : Nat := max k.bits 32

/-- Whether the zone is exact; the wider types take the largest shift of `n` that fits. -/
def exactZone (k : IntKind) : Bool := k.bits ≤ 16

def signed : IntKind → Bool
  | i32 => true | i64 => true | _ => false

/-- The integer of the type with the given low bits. -/
def ofBits (k : IntKind) (n : Nat) : Int :=
  if k.signed then (n : Int).bmod (2 ^ k.bits) else (n : Int) % 2 ^ k.bits

/-- The largest low half that is accepted for a range of `n` values. -/
def zone (k : IntKind) (n : Nat) : Nat :=
  if k.exactZone then
    2 ^ k.rawBits - 1 - (2 ^ k.rawBits - n) % n
  else
    n * 2 ^ (k.rawBits - 1 - n.log2) - 1

end IntKind

namespace Draw

def raw (k : IntKind) : Draw Nat :=
  if k.rawBits = 64 then return (← word64).toNat else return (← word32).toNat

/-- Draws in a row that may be refused. -/
def refusals : Nat := 1024

/-- An integer below `n`, by multiplication and refusal. -/
def scaled (k : IntKind) (n zone : Nat) : Nat → Draw Nat
  | 0 => return (← raw k) * n / 2 ^ k.rawBits
  | fuel + 1 => do
    let p := (← raw k) * n
    if p % 2 ^ k.rawBits ≤ zone then return p / 2 ^ k.rawBits else scaled k n zone fuel

/-- An integer from `lo` to `hi`, both included; `none` for an empty range, with nothing drawn. -/
def between (k : IntKind) (lo hi : Int) : Draw (Option Int) :=
  if lo ≤ hi then do
    let n := (hi - lo + 1).toNat
    if n = 2 ^ k.bits then return some (k.ofBits (← raw k))
    return some (lo + (← scaled k n (k.zone n) refusals))
  else return none

/-- An index below `len`; `none` for an empty list, with nothing drawn. -/
def index (len : Nat) : Draw (Option Nat) :=
  if len = 0 then return none
  else return some (← scaled .u64 len (IntKind.zone .u64 len) refusals)

/-- An integer below `bound`; zero for a zero bound, with nothing drawn. -/
def below (bound : Nat) : Draw Nat :=
  if bound = 0 then return 0
  else scaled .u32 bound (IntKind.zone .u32 bound) refusals

def choose {α : Type} (items : List α) : Draw (Option α) := do
  match ← index items.length with
  | none => return none
  | some i => return items[i]?

def oneOf {α : Type} (first : α) (others : List α) : Draw α := do
  return (← choose (first :: others)).getD first

/-- A float in `[0, 1)` with 53 random bits. -/
def unit : Draw Float := do
  return ((← word64) >>> 11).toFloat * Float.ofBits 0x3CA0000000000000

/-- A float in `[0, 1)` with 52 random bits. -/
def fraction : Draw Float := do
  return ((← word64) >>> 12).toFloat * Float.ofBits 0x3CB0000000000000

/-- Scales fractions into `[lo, hi)`, refusing what rounding lifts to `hi`. -/
def stretched (lo hi : Float) : Nat → Draw Float
  | 0 => return lo
  | fuel + 1 => do
    let r := (← fraction) * (hi - lo) + lo
    if r < hi then return r else stretched lo hi fuel

def betweenFloats (lo hi : Float) : Draw (Option Float) :=
  if lo < hi && (hi - lo).isFinite then return some (← stretched lo hi refusals)
  else return none

end Draw

end ShopTraffic.Random
