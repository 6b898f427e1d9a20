import ShopTraffic.Log
import ShopTraffic.Text

/-!
Which lines of the log are written, and in which form.
-/

namespace ShopTraffic

/-- Lines are written from a level on, or not at all. -/
inductive Threshold
  | off
  | least (level : Level)
  deriving DecidableEq, Repr

namespace Threshold

def name : Threshold → String
  | off => "off"
  | least l => Text.lowered l.name

/-- A threshold by its name in capital or small letters, or by its number; nothing at all stands for
errors alone. -/
def ofText? (s : String) : Option Threshold :=
  match Text.lowered s with
  | "off" | "0" => some off
  | "error" | "1" | "" => some (least .error)
  | "warn" | "2" => some (least .warn)
  | "info" | "3" => some (least .info)
  | "debug" | "4" => some (least .debug)
  | "trace" | "5" => some (least .trace)
  | _ => none

/-- The wish of the moment goes before the setting, and a threshold that cannot be read is passed
over. -/
def choose (wish : Option String) (setting : String) : Threshold :=
  ((wish >>= ofText?).or (ofText? setting)).getD (least .info)

def admits : Threshold → Level → Bool
  | off, _ => false
  | least l, m => l.rank ≤ m.rank

end Threshold

inductive LogFormat
  | json | pretty
  deriving DecidableEq, Repr

namespace LogFormat

def name : LogFormat → String
  | json => "json"
  | pretty => "pretty"

/-- The form by its name; what is not known is the form for people. -/
def ofText (s : String) : LogFormat := if Text.lowered s = "json" then json else pretty

end LogFormat

end ShopTraffic
