/-!
Command lines in general. Options have a word and perhaps a letter, and a value that follows at
once, behind an equals sign or as the next argument. A value that stands alone is only looked at
when the next option comes or the arguments end, so a fault that is seen earlier wins.
-/

namespace ShopTraffic.CommandLine

inductive Refusal
  | unknownArgument
  | unknownCommand
  | missingValue
  | badValue
  | needlessValue
  | givenTwice
  | missingCommand
  | nothingGiven
  | helpAsked
  | versionAsked
  deriving DecidableEq, Repr

/-- An option that sets something in `σ`, unless its value is bad. -/
structure Knob (σ : Type) where
  letter : Option Char := none
  word : String
  help : String
  set : String → σ → Option σ

/-- What can stand on a command line: options and names of commands. -/
structure Grammar (σ : Type) where
  knobs : List (Knob σ)
  commands : List String := []

/-- What has been read: the values, the options that had one, and an option whose value has not been
looked at yet. -/
structure Progress (σ : Type) where
  values : σ
  given : List String := []
  pending : Option (Knob σ × Option String) := none

inductive Shape
  | separator
  | word (name : String) (attached : Option String)
  | letter (c : Char) (attached : Option String)
  | plain
  deriving DecidableEq, Repr

def Shape.of (arg : String) : Shape :=
  match arg.toList with
  | ['-', '-'] => .separator
  | '-' :: '-' :: cs =>
    .word (String.ofList (cs.takeWhile (· ≠ '='))) <|
      match cs.dropWhile (· ≠ '=') with
      | _ :: v => some (String.ofList v)
      | [] => none
  | '-' :: c :: cs =>
    .letter c <|
      match cs with
      | [] => none
      | '=' :: v => some (String.ofList v)
      | v => some (String.ofList v)
  | _ => .plain

namespace Progress

variable {σ : Type}

/-- Gives an option its value; an option has one value at most. -/
def give (p : Progress σ) (k : Knob σ) (v : String) : Except Refusal (Progress σ) :=
  if k.word ∈ p.given then .error .givenTwice
  else
    match k.set v p.values with
    | some values => .ok { values, given := k.word :: p.given }
    | none => .error .badValue

/-- Looks at the value that is still to be looked at. -/
def settle (p : Progress σ) : Except Refusal (Progress σ) :=
  match p.pending with
  | none => .ok p
  | some (_, none) => .error .missingValue
  | some (k, some v) => p.give k v

def isWaiting (p : Progress σ) : Bool :=
  match p.pending with
  | some (_, none) => true
  | _ => false

/-- An option with its value at once, or waiting for it. -/
def meet (p : Progress σ) (k : Knob σ) (attached : Option String) :
    Except Refusal (Progress σ) := do
  let p ← p.settle
  match attached with
  | some v => p.give k v
  | none => return { p with pending := some (k, none) }

/-- A question is answered only if all is well so far. -/
def ask (p : Progress σ) (question : Refusal) : Except Refusal (Progress σ) :=
  match p.settle with
  | .ok _ => .error question
  | .error r => .error r

end Progress

namespace Grammar

variable {σ : Type}

def stray (g : Grammar σ) : Refusal :=
  if g.commands.isEmpty then .unknownArgument else .unknownCommand

/-- Nothing is expected behind a separator; the name of a command there is no command. -/
def behindSeparator (g : Grammar σ) (p : Progress σ) : List String → Except Refusal (Progress σ)
  | [] => p.settle
  | a :: _ => .error (if a ∈ g.commands then .unknownArgument else g.stray)

/-- What comes of an argument that is not the name of a command. -/
def meet (g : Grammar σ) (p : Progress σ) (arg : String) : Except Refusal (Progress σ) :=
  match Shape.of arg with
  | .word "help" none => p.ask .helpAsked
  | .word "version" none => p.ask .versionAsked
  | .word "help" (some _) | .word "version" (some _) => .error .needlessValue
  | .letter 'h' _ => p.ask .helpAsked
  | .letter 'V' _ => p.ask .versionAsked
  | .word name attached =>
    match g.knobs.find? (·.word == name) with
    | some k => p.meet k attached
    | none => .error .unknownArgument
  | .letter c attached =>
    match g.knobs.find? (·.letter == some c) with
    | some k => p.meet k attached
    | none => .error .unknownArgument
  | .separator | .plain =>
    match p.pending with
    | some (k, none) => .ok { p with pending := some (k, some arg) }
    | _ => .error g.stray

/-- Reads arguments up to the name of a command, which comes back with the arguments behind it. -/
def scan (g : Grammar σ) :
    List String → Progress σ → Except Refusal (Progress σ × Option (String × List String))
  | [], p => p.settle.map (·, none)
  | a :: as, p =>
    if !p.isWaiting && a ∈ g.commands then .ok (p, some (a, as))
    else if Shape.of a = .separator then (g.behindSeparator p as).map (·, none)
    else do
      let p ← g.meet p a
      g.scan as p

end Grammar

end ShopTraffic.CommandLine
