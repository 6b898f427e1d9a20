import ShopTraffic.Decimal.Shortest

/-!
The float nearest to a decimal. Halves go to the even neighbour, and what is too large becomes
infinite; all is decided on natural numbers.
-/

namespace ShopTraffic.Decimal

/-- The exponent of the last bit that a float next to `num / den` has, found from binary lengths. -/
def lastBit (num den : Nat) : Int :=
  let guess : Int := (num.log2 : Int) - den.log2 - 53
  let wide := num * 2 ^ (-guess).toNat / (den * 2 ^ guess.toNat) ≥ 2 ^ (53 : Nat)
  max (-1074) (if wide then guess + 1 else guess)

/-- The float nearest to `num / den`. -/
def nearestRatio (num den : Nat) : Float :=
  if num = 0 then 0
  else
    let q := lastBit num den
    let m := roundDiv (num * 2 ^ (-q).toNat) (den * 2 ^ q.toNat)
    if (m : Int) ≥ 2 ^ (53 : Nat) ∧ q ≥ 971 ∨ q > 971 then Float.ofBits 0x7FF0000000000000
    else (Float.ofNat m).scaleB q

/-- Exponents from here on are out of the range of floats in either direction. -/
def farExponent : Int := 400

def Dec.nearest (d : Dec) : Float :=
  if d.digits = 0 then 0
  else
    let size : Int := (numeral d.digits).length + d.exponent
    if size > farExponent then Float.ofBits 0x7FF0000000000000
    else if size < -farExponent then 0
    else nearestRatio (d.digits * 10 ^ d.exponent.toNat) (10 ^ (-d.exponent).toNat)

end ShopTraffic.Decimal
