/-!
Decimal digits and the natural number that a list of them stands for.
-/

namespace ShopTraffic.Decimal

def isDigit (c : Char) : Bool := '0' ≤ c && c ≤ '9'

def value (ds : List Char) : Nat := ds.foldl (fun n d => n * 10 + (d.toNat - 48)) 0

end ShopTraffic.Decimal
