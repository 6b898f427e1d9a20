import ShopTraffic.Json.Tree
import ShopTraffic.Settings.Written

/-!
Settings files. A file has lines with a header in brackets, which opens a section, and lines with a
key and a value. Values are strings in either kind of quotes, numbers, truth values and arrays; keys
and headers may have dots, for sections within sections. A section is opened once and a key is
written once.
-/

namespace ShopTraffic.Toml

/-! ### Characters and lines -/

def isBlank (c : Char) : Bool := c = ' ' || c = '\t'

/-- Control characters cannot be written, apart from the tab. -/
def isPrintable (c : Char) : Bool := c = '\t' || (c.toNat ≥ 32 && c.toNat ≠ 127)

def isBare (c : Char) : Bool :=
  ('a' ≤ c && c ≤ 'z') || ('A' ≤ c && c ≤ 'Z') || Decimal.isDigit c || c = '_' || c = '-'

def skipBlanks (cs : List Char) : List Char := cs.dropWhile isBlank

def skipComment : List Char → List Char
  | '#' :: cs => cs.dropWhile isPrintable
  | cs => cs

/-- What follows the end of a line, before which there may be blanks and a comment. -/
def endLine? (cs : List Char) : Option (List Char) :=
  match skipComment (skipBlanks cs) with
  | [] => some []
  | '\n' :: cs => some cs
  | '\r' :: '\n' :: cs => some cs
  | _ => none

/-! ### Strings and keys -/

def ofHex? (ds : List Char) : Option Char := do
  let n ← ds.foldlM (fun n d => (Tree.hexValue? d).map (n * 16 + ·)) 0
  if n.isValidChar then some (Char.ofNat n) else none

/-- The characters up to a double quote, and what follows it. -/
def readQuoted : List Char → Option (List Char × List Char)
  | [] => none
  | '"' :: cs => some ([], cs)
  | '\\' :: 'u' :: a :: b :: c :: d :: cs => do
    let x ← ofHex? [a, b, c, d]
    let (xs, rest) ← readQuoted cs
    return (x :: xs, rest)
  | '\\' :: 'U' :: a :: b :: c :: d :: e :: f :: g :: h :: cs => do
    let x ← ofHex? [a, b, c, d, e, f, g, h]
    let (xs, rest) ← readQuoted cs
    return (x :: xs, rest)
  | '\\' :: l :: cs => do
    if l = '/' then none
    let x ← Tree.ofLetter? l
    let (xs, rest) ← readQuoted cs
    return (x :: xs, rest)
  | c :: cs =>
    if c = '\\' ∨ !isPrintable c then none
    else do
      let (xs, rest) ← readQuoted cs
      return (c :: xs, rest)

/-- The characters up to a single quote, all of them taken as they are, and what follows it. -/
def readLiteral (cs : List Char) : Option (List Char × List Char) :=
  let xs := cs.takeWhile (· ≠ '\x27')
  match cs.dropWhile (· ≠ '\x27') with
  | _ :: rest => if xs.all isPrintable then some (xs, rest) else none
  | [] => none

def readName (cs : List Char) : Option (String × List Char) :=
  match cs with
  | '"' :: cs => (readQuoted cs).map fun (xs, rest) => (String.ofList xs, rest)
  | '\x27' :: cs => (readLiteral cs).map fun (xs, rest) => (String.ofList xs, rest)
  | cs =>
    match cs.takeWhile isBare with
    | [] => none
    | xs => some (String.ofList xs, cs.dropWhile isBare)

/-- The names of a key, and what follows it and the blanks behind it. The number bounds the
names. -/
def readKey : Nat → List Char → Option (List String × List Char)
  | 0, _ => none
  | fuel + 1, cs => do
    let (name, cs) ← readName (skipBlanks cs)
    match skipBlanks cs with
    | '.' :: cs =>
      let (names, rest) ← readKey fuel cs
      return (name :: names, rest)
    | rest => return ([name], rest)

/-! ### Numbers and words -/

/-- Digits with single underscores between them, which do not count. -/
def ungroup? (isDigit : Char → Bool) : List Char → Option (List Char)
  | [] => none
  | [c] => if isDigit c then some [c] else none
  | c :: '_' :: cs => if isDigit c then (ungroup? isDigit cs).map (c :: ·) else none
  | c :: cs => if isDigit c then (ungroup? isDigit cs).map (c :: ·) else none

/-- Decimal digits that do not begin with a zero for nothing. -/
def whole? (cs : List Char) : Option (List Char) :=
  (ungroup? Decimal.isDigit cs).filter fun ds => ds.length = 1 ∨ ds.head? ≠ some '0'

/-- A number with a base of its own. -/
def based? (base : Nat) (cs : List Char) : Option Nat :=
  let isDigit (c : Char) : Bool := ((Tree.hexValue? c).map fun d => decide (d < base)).getD false
  (ungroup? isDigit cs).map fun ds =>
    ds.foldl (fun n d => n * base + (Tree.hexValue? d).getD 0) 0

def integer? : List Char → Option Int
  | '0' :: 'x' :: cs => (based? 16 cs).map Int.ofNat
  | '0' :: 'o' :: cs => (based? 8 cs).map Int.ofNat
  | '0' :: 'b' :: cs => (based? 2 cs).map Int.ofNat
  | cs =>
    let (negative, cs) := Decimal.signOf cs
    (whole? cs).map fun ds => if negative then -(Decimal.value ds : Int) else Decimal.value ds

def fraction? : List Char → Option (List Char)
  | [] => some []
  | '.' :: cs => ungroup? Decimal.isDigit cs
  | _ => none

def exponent? : List Char → Option Int
  | [] => some 0
  | _ :: cs =>
    let (negative, cs) := Decimal.signOf cs
    (ungroup? Decimal.isDigit cs).map fun ds =>
      if negative then -(Decimal.value ds : Int) else Decimal.value ds

def float? (cs : List Char) : Option Float :=
  let (negative, cs) := Decimal.signOf cs
  let isMark (c : Char) : Bool := c = 'e' || c = 'E'
  let mantissa := cs.takeWhile fun c => !isMark c
  let magnitude :=
    match String.ofList cs with
    | "inf" => some (Float.ofBits 0x7FF0000000000000)
    | "nan" => some (Float.ofBits 0x7FF8000000000000)
    | _ => do
      let ds ← whole? (mantissa.takeWhile (· ≠ '.'))
      let fs ← fraction? (mantissa.dropWhile (· ≠ '.'))
      let e ← exponent? (cs.dropWhile fun c => !isMark c)
      return Decimal.Dec.nearest ⟨Decimal.value (ds ++ fs), e - fs.length⟩
  magnitude.map fun x => if negative then -x else x

/-- The value of a word without quotes. Integers have 64 bits. -/
def word? (cs : List Char) : Option Written :=
  match String.ofList cs with
  | "true" => some (.flag true)
  | "false" => some (.flag false)
  | _ =>
    match integer? cs with
    | some i => if -2 ^ (63 : Nat) ≤ i ∧ i < 2 ^ (63 : Nat) then some (.integer i) else none
    | none => (float? cs).map .real

/-! ### Values -/

/-- Skips blanks, line ends and comments. The number bounds the lines. -/
def skipSpace : Nat → List Char → List Char
  | 0, cs => cs
  | fuel + 1, cs =>
    match skipComment (skipBlanks cs) with
    | '\n' :: cs => skipSpace fuel cs
    | '\r' :: '\n' :: cs => skipSpace fuel cs
    | cs => cs

def isWord (c : Char) : Bool := isBare c || c = '+' || c = '.'

mutual

/-- A value and what follows. The number bounds the depth of the recursion. -/
def readValue : Nat → List Char → Option (Written × List Char)
  | 0, _ => none
  | fuel + 1, cs =>
    match cs with
    | '"' :: cs => (readQuoted cs).map fun (xs, rest) => (.text (String.ofList xs), rest)
    | '\x27' :: cs => (readLiteral cs).map fun (xs, rest) => (.text (String.ofList xs), rest)
    | '[' :: cs => (readItems fuel cs).map fun (vs, rest) => (.list vs, rest)
    | cs => (word? (cs.takeWhile isWord)).map (·, cs.dropWhile isWord)

def readItems : Nat → List Char → Option (List Written × List Char)
  | 0, _ => none
  | fuel + 1, cs =>
    match skipSpace fuel cs with
    | ']' :: rest => some ([], rest)
    | cs => do
      let (v, cs) ← readValue fuel cs
      match skipSpace fuel cs with
      | ',' :: cs =>
        let (vs, rest) ← readItems fuel cs
        return (v :: vs, rest)
      | ']' :: rest => return ([v], rest)
      | _ => none

end

/-! ### Sections -/

/-- How a section came to be: on the way to another one, by a header, or by a key with dots. -/
inductive Origin
  | passed | headed | dotted
  deriving DecidableEq, Repr

inductive Node
  | value (written : Written)
  | part (origin : Origin) (members : List (String × Node))
  deriving Inhabited

abbrev Names := List (String × Node)

def replace (ms : Names) (name : String) (n : Node) : Names :=
  ms.map fun m => if m.1 = name then (name, n) else m

/-- A header opens a section that has not been opened before. -/
def openSection : List String → Names → Option Names
  | [], _ => none
  | [k], ms =>
    match ms.lookup k with
    | none => some (ms ++ [(k, .part .headed [])])
    | some (.part .passed sub) => some (replace ms k (.part .headed sub))
    | some _ => none
  | k :: ks, ms =>
    match ms.lookup k with
    | none => (openSection ks []).map fun sub => ms ++ [(k, .part .passed sub)]
    | some (.part o sub) => (openSection ks sub).map fun sub => replace ms k (.part o sub)
    | some (.value _) => none

/-- Writes a value under a key; a section with a header is not entered by a key. -/
def assign (w : Written) : List String → Names → Option Names
  | [], _ => none
  | [k], ms => if (ms.lookup k).isSome then none else some (ms ++ [(k, .value w)])
  | k :: ks, ms =>
    match ms.lookup k with
    | none => (assign w ks []).map fun sub => ms ++ [(k, .part .dotted sub)]
    | some (.part .headed _) => none
    | some (.part o sub) => (assign w ks sub).map fun sub => replace ms k (.part o sub)
    | some (.value _) => none

def within (f : Names → Option Names) : List String → Names → Option Names
  | [], ms => f ms
  | k :: ks, ms =>
    match ms.lookup k with
    | some (.part o sub) => (within f ks sub).map fun sub => replace ms k (.part o sub)
    | _ => none

mutual

def Node.written : Node → Written
  | .value w => w
  | .part _ ms => .table (membersWritten ms)

def membersWritten : List (String × Node) → List (String × Written)
  | [] => []
  | (k, n) :: ms => (k, n.written) :: membersWritten ms

end

/-! ### Files -/

def readHeader (cs : List Char) : Option (List String × List Char) := do
  let (path, cs) ← readKey (cs.length + 1) cs
  match cs with
  | ']' :: rest => return (path, rest)
  | _ => none

def readPair (cs : List Char) : Option (List String × Written × List Char) := do
  let (key, cs) ← readKey (cs.length + 1) cs
  match cs with
  | '=' :: cs =>
    let cs := skipBlanks cs
    let (w, rest) ← readValue (2 * cs.length + 2) cs
    return (key, w, rest)
  | _ => none

/-- Reads lines up to the end, in the section that was opened last. The number bounds the lines. -/
def readLines : Nat → List String → Names → List Char → Option Names
  | 0, _, _, _ => none
  | fuel + 1, current, ms, cs =>
    match endLine? cs with
    | some [] => some ms
    | some rest => readLines fuel current ms rest
    | none =>
      match skipBlanks cs with
      | '[' :: cs => do
        let (path, cs) ← readHeader cs
        let ms ← openSection path ms
        readLines fuel path ms (← endLine? cs)
      | cs => do
        let (key, w, cs) ← readPair cs
        let ms ← within (assign w key) current ms
        readLines fuel current ms (← endLine? cs)

def read? (s : String) : Option (List (String × Written)) :=
  let cs := s.toList
  (readLines (cs.length + 1) [] [] cs).map membersWritten

end ShopTraffic.Toml
