import ShopTraffic.Decimal.Digits
import ShopTraffic.Decimal.Nearest

/-!
Numbers that people write: a sign may stand in front, zeros may lead, and nothing may surround the
number.
-/

namespace ShopTraffic.Decimal

/-- Digits and nothing else, at least one. -/
def digits? (cs : List Char) : Option Nat :=
  if cs.isEmpty ∨ !cs.all isDigit then none else some (value cs)

/-- A natural number, which may have a plus sign. -/
def natural? : List Char → Option Nat
  | '+' :: ds => digits? ds
  | ds => digits? ds

def integer? : List Char → Option Int
  | '-' :: ds => (digits? ds).map fun n => -(n : Int)
  | ds => (natural? ds).map Int.ofNat

/-- The sign of a number, true for minus, and the rest of its text. -/
def signOf : List Char → Bool × List Char
  | '-' :: cs => (true, cs)
  | '+' :: cs => (false, cs)
  | cs => (false, cs)

/-- The exponent of a number: none is zero. -/
def exponent? : List Char → Option Int
  | [] => some 0
  | c :: cs => if c = 'e' ∨ c = 'E' then integer? cs else none

/-- A number with digits before or behind a point, and an exponent if need be. -/
def unsignedDec? (cs : List Char) : Option Dec :=
  let whole := cs.takeWhile isDigit
  let (fraction, rest) := match cs.dropWhile isDigit with
    | '.' :: cs => (cs.takeWhile isDigit, cs.dropWhile isDigit)
    | cs => ([], cs)
  if whole.isEmpty ∧ fraction.isEmpty then none
  else (exponent? rest).map fun e => ⟨value (whole ++ fraction), e - fraction.length⟩

/-- A float: a number, an infinity or no number. -/
def float? (cs : List Char) : Option Float :=
  let (negative, cs) := signOf cs
  let magnitude :=
    match String.ofList (cs.map Char.toLower) with
    | "inf" | "infinity" => some (Float.ofBits 0x7FF0000000000000)
    | "nan" => some (Float.ofBits 0x7FF8000000000000)
    | _ => (unsignedDec? cs).map Dec.nearest
  magnitude.map fun x => if negative then -x else x

end ShopTraffic.Decimal
