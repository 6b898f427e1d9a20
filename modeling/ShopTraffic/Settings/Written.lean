import ShopTraffic.Decimal.Reading
import ShopTraffic.Decimal.Shortest
import ShopTraffic.Settings.Fields
import ShopTraffic.Text

/-!
Settings as they are written in files and in the environment. There a value need not be of the kind
that its setting has: a number may be written as a text, a switch as a number, and so on.
-/

namespace ShopTraffic

inductive Written
  | flag (value : Bool)
  | integer (value : Int)
  | real (value : Float)
  | text (value : String)
  | list (items : List Written)
  | table (members : List (String × Written))
  deriving Repr, Inhabited

namespace Written

def trueWords : List String := ["true", "on", "yes"]

def falseWords : List String := ["false", "off", "no"]

/-- A float as a number of 64 bits: a half goes away from zero, and what does not fit becomes the
nearest number that does. -/
def roundedOff (x : Float) : Nat := x.round.toUInt64.toNat

def natural? : Written → Option Nat
  | flag b => some b.toNat
  | integer i => if 0 ≤ i then some i.toNat else none
  | real x => some (roundedOff x)
  | text s =>
    if Text.lowered s ∈ trueWords then some 1
    else if Text.lowered s ∈ falseWords then some 0
    else (Decimal.natural? s.toList).filter (· ≤ bound64)
  | list _ | table _ => none

def flag? : Written → Option Bool
  | flag b => some b
  | integer i => some (i != 0)
  | real x => some (x != 0)
  | text s =>
    if Text.lowered s ∈ "1" :: trueWords then some true
    else if Text.lowered s ∈ "0" :: falseWords then some false
    else none
  | list _ | table _ => none

def text? : Written → Option String
  | flag b => some (if b then "true" else "false")
  | integer i => some (toString i)
  | real x => some (Decimal.plain x)
  | text s => some s
  | list _ | table _ => none

/-- A value of a kind, converted if need be; only the name of a sink has to be exact. -/
def setting? : (k : SettingKind) → Written → Option k.Value
  | .number bound, w => (w.natural?.filter (· ≤ bound) : Option Nat)
  | .optionalNumber bound, w => (w.natural?.filter (· ≤ bound)).map some
  | .text, w => w.text?
  | .flag, w => w.flag?
  | .sink, text s => SinkKind.ofName? s
  | .sink, _ => none

/-- A group of settings: a table, or a list of values in the order of the settings. -/
def group? {γ : Type} (rs : List (Reading Written γ)) : Written → γ → Option γ
  | table ms, g => readNamed ms rs g
  | list vs, g => readPlaced rs (vs.take rs.length) g
  | _, _ => none

/-- The value of an environment variable: a switch, a number, or else a text. -/
def ofText (s : String) : Written :=
  match Text.lowered s with
  | "true" => flag true
  | "false" => flag false
  | _ =>
    match (Decimal.integer? s.toList).filter fun i => -2 ^ (63 : Nat) ≤ i ∧ i < 2 ^ (63 : Nat) with
    | some i => integer i
    | none =>
      match Decimal.float? s.toList with
      | some x => real x
      | none => text s

end Written

end ShopTraffic
