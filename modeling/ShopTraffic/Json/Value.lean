/-!
JSON values. Numbers keep integers and floats apart; the members of an object are listed in the
order of their names, each name once.
-/

namespace ShopTraffic

/-- A JSON number. Integers are those from `-2^63` up to below `2^64`. -/
inductive Number
  | integer (value : Int)
  | real (value : Float)
  deriving DecidableEq, Repr, Inhabited

inductive Json
  | null
  | bool (value : Bool)
  | number (value : Number)
  | text (value : String)
  | list (items : List Json)
  | record (fields : List (String × Json))
  deriving Repr, Inhabited, BEq

/-- The members of an object, in the order of their names. -/
abbrev Fields := List (String × Json)

namespace Fields

def get? (fs : Fields) (name : String) : Option Json := fs.lookup name

def insert : Fields → String → Json → Fields
  | [], name, v => [(name, v)]
  | (k, w) :: fs, name, v =>
    if name < k then (name, v) :: (k, w) :: fs
    else if k = name then (name, v) :: fs
    else (k, w) :: insert fs name v

def insertAll (fs : Fields) (more : List (String × Json)) : Fields :=
  more.foldl (fun fs m => fs.insert m.1 m.2) fs

def ofList (members : List (String × Json)) : Fields := insertAll [] members

end Fields

namespace Json

/-- The integer values that a number can have. -/
def minInteger : Int := -2 ^ (63 : Nat)
def maxInteger : Int := 2 ^ (64 : Nat) - 1

def ofNat (n : Nat) : Json := .number (.integer n)

def ofInt (i : Int) : Json := .number (.integer i)

def tag? : Json → Option String
  | .text s => some s
  | .record [(s, .null)] => some s
  | _ => none

def get? : Json → String → Option Json
  | .record fs, name => Fields.get? fs name
  | _, _ => none

end Json

end ShopTraffic
