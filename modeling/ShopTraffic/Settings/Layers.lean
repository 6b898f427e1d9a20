import ShopTraffic.Settings.Toml

/-!
Settings from several layers: two names that are always set, two files, and the environment. A
later layer is written over the earlier ones, section by section and name by name.
-/

namespace ShopTraffic

abbrev Layers := List (String × Written)

namespace Layers

/-- Writes a value under a name; what stood there is replaced. -/
def put (ls : Layers) (name : String) (w : Written) : Layers :=
  match ls with
  | [] => [(name, w)]
  | l :: ls => if l.1 = name then (name, w) :: ls else l :: put ls name w

def membersOf : Option Written → Layers
  | some (.table ms) => ms
  | _ => []

mutual

/-- A value written over an older one. Tables are merged; an empty table leaves what is there. -/
def overlay : Written → Option Written → Written
  | .table [], old => old.getD (.table [])
  | .table (m :: ms), old => .table (overlayAll (m :: ms) (membersOf old))
  | w, _ => w

def overlayAll : List (String × Written) → Layers → Layers
  | [], ls => ls
  | (k, w) :: ms, ls => overlayAll ms (ls.put k (overlay w (ls.lookup k)))

end

def isNameChar (c : Char) : Bool := Toml.isBare c

/-- The names of a path with dots; a text that is no path is a single name. -/
def path (s : String) : List String :=
  let names := (s.splitOn ".")
  if names.all fun n => !n.isEmpty && n.toList.all isNameChar then names else [s]

def nested : List String → Written → Written
  | [], w => w
  | k :: ks, w => .table [(k, nested ks w)]

def write (ls : Layers) (p : List String) (w : Written) : Layers :=
  membersOf (some (overlay (nested p w) (some (.table ls))))

def writeAll (ls : Layers) (layer : List (String × Written)) : Layers :=
  layer.foldl (fun ls m => ls.write (path m.1) m.2) ls

/-- The variables that belong to the program begin like this, in small letters. -/
def variableStart : String := "clickstream_"

/-- The name of a setting in the environment: two underscores stand for a dot. -/
def pathOf (v : String) : Option String :=
  let v := Text.lowered v
  if v.startsWith variableStart then
    some (String.intercalate "." ((v.drop variableStart.length).toString.splitOn "__"))
  else none

def environment (vars : List (String × String)) : List (String × Written) :=
  vars.filterMap fun v => (pathOf v.1).map (·, Written.ofText v.2)

def settings? (ls : Layers) : Option Settings :=
  Written.group? (Settings.readings Written.setting? Written.group?) (.table ls) {}

end Layers

/-- Where the layers come from: the directory of settings files, and the environment. -/
structure Surroundings where
  files : List (String × String)
  environment : List (String × String)

namespace Surroundings

/-- The environment in the sense of where the program runs. -/
def place (s : Surroundings) : String := (s.environment.lookup "CLICKSTREAM_ENV").getD "development"

/-- The layer of a file. A file that does not exist, or has nothing but an ending for a name, is an
empty layer. -/
def file? (s : Surroundings) (name : String) : Option (List (String × Written)) :=
  match s.files.lookup s!"{name}.toml" with
  | some text => if name.isEmpty then some [] else Toml.read? text
  | none => some []

/-- All layers, of which the later ones win. -/
def layers? (s : Surroundings) (service : String) : Option Layers := do
  let basis : Layers := [("service_name", .text service), ("environment", .text s.place)]
  let common ← s.file? "default"
  let special ← s.file? s.place
  return ((basis.writeAll common).writeAll special).writeAll (Layers.environment s.environment)

def settings (s : Surroundings) (service : String) : Except Failure Settings :=
  match s.layers? service >>= Layers.settings? with
  | some x => .ok x
  | none => .error (.settings "")

end Surroundings

end ShopTraffic
