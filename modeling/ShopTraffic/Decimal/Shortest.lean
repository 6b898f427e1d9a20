/-!
Decimals for floats. A finite float stands for an interval of reals, those that round to it; its
shortest decimal is the one with the fewest digits in that interval. All comparisons are made on
natural numbers, so nothing is rounded on the way.
-/

namespace ShopTraffic.Decimal

/-- The value `m * 2^q`. With `narrow`, the next value below is at half the distance of the next
value above. -/
structure Binary where
  m : Nat
  q : Int
  narrow : Bool
  deriving DecidableEq, Repr

/-- The magnitude of a finite float. -/
def Binary.ofFloat (x : Float) : Binary :=
  let bits := x.toBits.toNat
  let e : Nat := bits / 2 ^ (52 : Nat) % 2 ^ (11 : Nat)
  let f : Nat := bits % 2 ^ (52 : Nat)
  if e = 0 then ⟨f, -1074, false⟩ else ⟨2 ^ (52 : Nat) + f, (e : Int) - 1075, f = 0 && e > 1⟩

/-- The value `digits * 10^exponent`. -/
structure Dec where
  digits : Nat
  exponent : Int
  deriving DecidableEq, Repr

/-- Compares `a * 10^i` with `n * 2^j`. -/
def compareScaled (a : Nat) (i : Int) (n : Nat) (j : Int) : Ordering :=
  compare (a * 10 ^ i.toNat * 2 ^ (-j).toNat) (n * 2 ^ j.toNat * 10 ^ (-i).toNat)

/-- The decimal is one of the reals that round to the value; the ends of the interval count when
the last bit of the value is even. -/
def Binary.covers (x : Binary) (d : Dec) : Bool :=
  let low := if x.narrow then 4 * x.m - 1 else 4 * x.m - 2
  let ends := x.m % 2 = 0
  let atLow := compareScaled d.digits d.exponent low (x.q - 2)
  let atHigh := compareScaled d.digits d.exponent (4 * x.m + 2) (x.q - 2)
  (atLow = .gt || (ends && atLow = .eq)) && (atHigh = .lt || (ends && atHigh = .eq))

/-- The largest multiple of `10^exponent` that is at most the value. -/
def Binary.floorAt (x : Binary) (exponent : Int) : Nat :=
  x.m * 2 ^ x.q.toNat * 10 ^ (-exponent).toNat / (2 ^ (-x.q).toNat * 10 ^ exponent.toNat)

/-- The least `k` with the value below `10^k`, found next to an estimate from the binary length. -/
def Binary.scale (x : Binary) : Int :=
  let estimate := ((x.m.log2 : Int) + x.q) * 30103 / 100000
  ([estimate - 1, estimate, estimate + 1].find? fun k => compareScaled 1 k x.m x.q = .gt).getD
    (estimate + 2)

/-- Of two neighbours on a grid the nearer; `tieUp` says which one wins half way. -/
def Binary.nearer (x : Binary) (tieUp : Bool) (low : Nat) (exponent : Int) : Dec :=
  match compareScaled (2 * low + 1) exponent (2 * x.m) x.q with
  | .gt => ⟨low, exponent⟩
  | .lt => ⟨low + 1, exponent⟩
  | .eq => if tieUp || low % 2 = 1 then ⟨low + 1, exponent⟩ else ⟨low, exponent⟩

/-- The best decimal on one grid, if one of the two neighbours of the value lies in its interval. -/
def Binary.onGrid (x : Binary) (tieUp : Bool) (exponent : Int) : Option Dec :=
  let low := x.floorAt exponent
  match x.covers ⟨low, exponent⟩, x.covers ⟨low + 1, exponent⟩ with
  | true, true => some (x.nearer tieUp low exponent)
  | true, false => some ⟨low, exponent⟩
  | false, true => some ⟨low + 1, exponent⟩
  | false, false => none

/-- Moves trailing zeros of the digits into the exponent. -/
def Dec.strip (d : Dec) : Dec :=
  if h : d.digits ≠ 0 ∧ d.digits % 10 = 0 then Dec.strip ⟨d.digits / 10, d.exponent + 1⟩ else d
termination_by d.digits
decreasing_by omega

/-- The shortest decimal of a value that is not zero: grids of 1, 2, … 17 digits are tried in turn,
and the exact value is left if none serves. -/
def Binary.shortest (x : Binary) (tieUp : Bool) : Dec :=
  let k := x.scale
  let found := (List.range 17).findSome? fun (n : Nat) => x.onGrid tieUp (k - (n + 1))
  (found.getD ⟨x.m * 2 ^ x.q.toNat * 5 ^ (-x.q).toNat, if x.q < 0 then x.q else 0⟩).strip

/-- The quotient rounded to the nearest integer, a half to the even one. -/
def roundDiv (num den : Nat) : Nat :=
  let q := num / den
  match compare (2 * (num % den)) den with
  | .lt => q
  | .gt => q + 1
  | .eq => if q % 2 = 0 then q else q + 1

def numeral (n : Nat) : List Char := Nat.toDigits 10 n

def pointed (places : Nat) (n : Nat) : List Char :=
  let ds := numeral n
  let ds := List.replicate (places + 1 - ds.length) '0' ++ ds
  ds.take (ds.length - places) ++ (if places = 0 then [] else '.' :: ds.drop (ds.length - places))

def isNegative (x : Float) : Bool := x.toBits ≥ 0x8000000000000000

def sign (x : Float) : List Char := if isNegative x then ['-'] else []

/-- A finite float with a fixed number of places, rounded from its exact value. -/
def fixed (places : Nat) (x : Float) : String :=
  let b := Binary.ofFloat x
  let n := roundDiv (b.m * 2 ^ b.q.toNat * 10 ^ places) (2 ^ (-b.q).toNat)
  String.ofList (sign x ++ pointed places n)

/-- A decimal written out without an exponent; whole numbers get no point. -/
def Dec.plain (d : Dec) : List Char :=
  if d.exponent ≥ 0 then numeral d.digits ++ List.replicate d.exponent.toNat '0'
  else pointed (-d.exponent).toNat d.digits

/-- A float in the fewest digits that identify it, never with an exponent. -/
def plain (x : Float) : String :=
  if x.isNaN then "NaN"
  else if x.isInf then (if isNegative x then "-inf" else "inf")
  else
    let b := Binary.ofFloat x
    String.ofList (sign x ++ if b.m = 0 then ['0'] else (b.shortest true).plain)

/-- A finite float in the fewest digits that identify it, with a point or an exponent: positional
from `10^-5` up to below `10^16`. -/
def pointedOrScientific (x : Float) : List Char :=
  let b := Binary.ofFloat x
  sign x ++ if b.m = 0 then ['0', '.', '0'] else
    let d := b.shortest false
    let ds := numeral d.digits
    let k : Int := ds.length + d.exponent
    if 0 ≤ d.exponent ∧ k ≤ 16 then d.plain ++ ['.', '0']
    else if -5 < k ∧ k ≤ 16 then d.plain
    else
      let mantissa := ds.take 1 ++ (if ds.length = 1 then [] else '.' :: ds.drop 1)
      mantissa ++ 'e' :: (if k - 1 < 0 then ['-'] else []) ++ numeral (k - 1).natAbs

end ShopTraffic.Decimal
