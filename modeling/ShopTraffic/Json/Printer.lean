import ShopTraffic.Decimal.Shortest
import ShopTraffic.Json.Value

/-!
The written form of JSON values: no blanks, and as few escapes as the grammar allows. A float
always carries a point or an exponent, so that it is read back as a float.
-/

namespace ShopTraffic.Json

def letterOf? : Char → Option Char
  | '"' => some '"'
  | '\\' => some '\\'
  | '\x08' => some 'b'
  | '\x0c' => some 'f'
  | '\n' => some 'n'
  | '\r' => some 'r'
  | '\t' => some 't'
  | _ => none

def hexDigit (n : Nat) : Char := if n < 10 then Char.ofNat (48 + n) else Char.ofNat (87 + n)

/-- A character inside quotes: a letter escape, a numbered one for other control characters, or
the character itself. -/
def escaped (c : Char) : List Char :=
  match letterOf? c with
  | some l => ['\\', l]
  | none =>
    if c.toNat < 32 then ['\\', 'u', '0', '0', hexDigit (c.toNat / 16), hexDigit (c.toNat % 16)]
    else [c]

def quoted (s : String) : List Char := '"' :: (s.toList.flatMap escaped ++ ['"'])

def printInteger (i : Int) : List Char :=
  if i < 0 then '-' :: Decimal.numeral i.natAbs else Decimal.numeral i.natAbs

/-- A float that is no number or infinite has no written form but `null`. -/
def printReal (x : Float) : List Char :=
  if x.isFinite then Decimal.pointedOrScientific x else "null".toList

def Number.print : Number → List Char
  | .integer i => printInteger i
  | .real x => printReal x

mutual

def printOnto : Json → List Char → List Char
  | .null, rest => 'n' :: 'u' :: 'l' :: 'l' :: rest
  | .bool true, rest => 't' :: 'r' :: 'u' :: 'e' :: rest
  | .bool false, rest => 'f' :: 'a' :: 'l' :: 's' :: 'e' :: rest
  | .number n, rest => Number.print n ++ rest
  | .text s, rest => quoted s ++ rest
  | .list [], rest => '[' :: ']' :: rest
  | .list (v :: vs), rest => '[' :: printOnto v (printItems vs (']' :: rest))
  | .record [], rest => '{' :: '}' :: rest
  | .record ((k, v) :: fs), rest =>
    '{' :: (quoted k ++ ':' :: printOnto v (printMembers fs ('}' :: rest)))

def printItems : List Json → List Char → List Char
  | [], rest => rest
  | v :: vs, rest => ',' :: printOnto v (printItems vs rest)

def printMembers : List (String × Json) → List Char → List Char
  | [], rest => rest
  | (k, v) :: fs, rest => ',' :: (quoted k ++ ':' :: printOnto v (printMembers fs rest))

end

def print (v : Json) : List Char := printOnto v []

def render (v : Json) : String := String.ofList v.print

end ShopTraffic.Json
