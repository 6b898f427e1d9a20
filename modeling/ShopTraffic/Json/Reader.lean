import ShopTraffic.Json.Tree

/-!
What a JSON tree means. A string with half of a surrogate pair, a float beyond the largest one and
a value nested too deeply have no meaning; of a repeated name the last member counts.
-/

namespace ShopTraffic

/-- The leading digits whose value fits 64 bits, from `n` on: that value and the digits left. -/
def takeFitting (n : Nat) : List Char → Nat × List Char
  | [] => (n, [])
  | d :: ds =>
    let m := n * 10 + (d.toNat - 48)
    if m < 2 ^ (64 : Nat) then takeFitting m ds else (n, d :: ds)

namespace Numeral

/-- The largest power of ten that a float is scaled by in one step. -/
def maxPower : Nat := 308

def powerOfTen (n : Nat) : Float := Float.ofScientific 1 false n

/-- Divides by a power of ten, in steps that a float can hold; zero stays as it is. -/
def scaleDown (f : Float) (n : Nat) : Float :=
  if f == 0 then f
  else if n ≤ maxPower then f / powerOfTen n
  else scaleDown (f / powerOfTen maxPower) (n - maxPower)
termination_by n
decreasing_by
  simp only [maxPower] at *
  omega

/-- The float `n * 10^e`, rounded once for the factor and once for the result. -/
def scaled? (n : Nat) (e : Int) : Option Float :=
  let f := n.toUInt64.toFloat
  if e < 0 then some (scaleDown f e.natAbs)
  else if e ≤ maxPower then
    let r := f * powerOfTen e.natAbs
    if r.isFinite then some r else none
  else if f == 0 then some f
  else none

def hugeExponent : Nat := 2 ^ (31 : Nat)

/-- The float of a numeral: its leading digits that fit 64 bits, times a power of ten. -/
def float? (x : Numeral) : Option Float :=
  let (n, left) := takeFitting 0 x.whole
  let fraction := x.fraction.getD []
  -- once a digit has been left out, the digits behind it are left out as well
  let (n, shift) : Nat × Int :=
    let (m, l) := takeFitting n fraction
    (m, (left.length : Int) - (fraction.length - l.length : Nat))
  let magnitude :=
    match x.exponent with
    | none => scaled? n shift
    | some (negative, ds) =>
      let e := Decimal.value ds
      if e ≥ hugeExponent then (if n ≠ 0 ∧ !negative then none else some 0)
      else scaled? n (if negative then shift - e else shift + e)
  magnitude.map fun f => if x.negative then -f else f

/-- An integer where the numeral is written as one and fits, else a float. Minus zero is a float. -/
def number? (x : Numeral) : Option Number :=
  let n := Decimal.value x.whole
  if x.fraction.isNone ∧ x.exponent.isNone ∧
      (if x.negative then 0 < n ∧ n ≤ 2 ^ (63 : Nat) else n < 2 ^ (64 : Nat)) then
    some (.integer (if x.negative then -(n : Int) else n))
  else x.float?.map .real

end Numeral

namespace Piece

/-- The characters of a string; a high surrogate needs a low one behind it. -/
def chars? : List Piece → Option (List Char)
  | [] => some []
  | .char c :: ps => (chars? ps).map (c :: ·)
  | .unit n :: ps =>
    if n < 0xD800 ∨ 0xE000 ≤ n then (chars? ps).map (Char.ofNat n :: ·)
    else if n < 0xDC00 then
      match ps with
      | .unit m :: ps =>
        if 0xDC00 ≤ m ∧ m < 0xE000 then
          (chars? ps).map (Char.ofNat (0x10000 + (n - 0xD800) * 0x400 + (m - 0xDC00)) :: ·)
        else none
      | _ => none
    else none

def string? (ps : List Piece) : Option String := (chars? ps).map String.ofList

end Piece

namespace Tree

def maxDepth : Nat := 127

mutual

/-- The meaning of a tree that may hold containers down to the given depth. -/
def value? : Nat → Tree → Option Json
  | _, .null => some .null
  | _, .bool b => some (.bool b)
  | _, .number n => n.number?.map .number
  | _, .text ps => (Piece.string? ps).map .text
  | 0, .list _ => none
  | 0, .record _ => none
  | depth + 1, .list vs => (items? depth vs).map .list
  | depth + 1, .record ms => (members? depth ms).map fun ms => .record (Fields.ofList ms)

def items? : Nat → List Tree → Option (List Json)
  | _, [] => some []
  | depth, v :: vs => do return (← value? depth v) :: (← items? depth vs)

def members? : Nat → List (List Piece × Tree) → Option (List (String × Json))
  | _, [] => some []
  | depth, (k, v) :: ms => do
    return ((← Piece.string? k), (← value? depth v)) :: (← members? depth ms)

end

end Tree

def Json.ofText? (s : String) : Option Json := Tree.ofText? s >>= Tree.value? Tree.maxDepth

end ShopTraffic
