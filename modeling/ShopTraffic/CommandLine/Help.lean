import ShopTraffic.CommandLine.Arguments
import ShopTraffic.Text

/-!
The texts that answer questions for help and for the version. Options and commands stand in a column
that is as wide as its longest entry.
-/

namespace ShopTraffic.CommandLine

def programName : String := "clickstream-generator"

def programVersion : String := "0.1.0"

/-- The name of an option's value: its word in capital letters. -/
def valueName (word : String) : String :=
  String.ofList (word.toList.map fun c => if c = '-' then '_' else c.toUpper)

def Knob.column {σ : Type} (k : Knob σ) : String :=
  let start := match k.letter with
    | some c => String.ofList ['-', c, ',', ' ']
    | none => "    "
  s!"{start}--{k.word} <{valueName k.word}>"

/-- Two columns, the second one two blanks behind the longest entry of the first one. -/
def columns (rows : List (String × String)) : String :=
  let width := rows.foldl (fun w r => max w r.1.length) 0
  String.join (rows.map fun r => s!"  {Text.padded width r.1}  {r.2}\n")

def optionRows {σ : Type} (knobs : List (Knob σ)) : List (String × String) :=
  knobs.map (fun k => (k.column, k.help)) ++
    [("-h, --help", "Print help"), ("-V, --version", "Print version")]

def page {σ : Type} (about usage : String) (knobs : List (Knob σ)) (commands : String) : String :=
  let options := if knobs.isEmpty then "" else " [OPTIONS]"
  let rest := if commands.isEmpty then "" else " <COMMAND>"
  s!"{about}\n\nUsage: {usage}{options}{rest}\n\n{commands}Options:\n{columns (optionRows knobs)}"

def helpText (command : Option String) : String :=
  match command with
  | some "run" =>
    page ((commandHelp.lookup "run").getD "") s!"{programName} run" RunOptions.knobs ""
  | some "table" =>
    page ((commandHelp.lookup "table").getD "") s!"{programName} table" tableGrammar.knobs ""
  | _ =>
    page "合成点击流流量生成器" programName CommonOptions.knobs
      s!"Commands:\n{columns commandHelp}\n"

def versionText (command : Option String) : String :=
  match command with
  | some c => s!"{programName}-{c} {programVersion}\n"
  | none => s!"{programName} {programVersion}\n"

end ShopTraffic.CommandLine
