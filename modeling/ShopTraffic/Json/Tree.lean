import ShopTraffic.Decimal.Digits
import ShopTraffic.Json.Value

/-!
JSON texts as written. A tree keeps what the meaning of a text forgets: the spelling of numerals,
escapes in strings, repeated names and the order of members. Reading a tree checks the grammar
and nothing else; what the parts mean is decided later, and only for the parts that are used.
-/

namespace ShopTraffic

/-- A numeral as written: digits before the point, after it, and the exponent. -/
structure Numeral where
  negative : Bool
  whole : List Char
  fraction : Option (List Char)
  exponent : Option (Bool × List Char)
  deriving DecidableEq, Repr

/-- A piece of a string: a character, or a numbered 16-bit unit. -/
inductive Piece
  | char (c : Char)
  | unit (n : Nat)
  deriving DecidableEq, Repr

inductive Tree
  | null
  | bool (value : Bool)
  | number (numeral : Numeral)
  | text (pieces : List Piece)
  | list (items : List Tree)
  | record (members : List (List Piece × Tree))
  deriving Repr, Inhabited

namespace Tree

def isBlank (c : Char) : Bool := c = ' ' || c = '\n' || c = '\t' || c = '\r'

def skipBlanks : List Char → List Char
  | [] => []
  | c :: cs => if isBlank c then skipBlanks cs else c :: cs

/-- The text without a word that it begins with. -/
def dropWord? : List Char → List Char → Option (List Char)
  | [], cs => some cs
  | w :: ws, c :: cs => if w = c then dropWord? ws cs else none
  | _ :: _, [] => none

def hexValue? (c : Char) : Option Nat :=
  if '0' ≤ c ∧ c ≤ '9' then some (c.toNat - 48)
  else if 'a' ≤ c ∧ c ≤ 'f' then some (c.toNat - 87)
  else if 'A' ≤ c ∧ c ≤ 'F' then some (c.toNat - 55)
  else none

def ofLetter? : Char → Option Char
  | '"' => some '"'
  | '\\' => some '\\'
  | '/' => some '/'
  | 'b' => some '\x08'
  | 'f' => some '\x0c'
  | 'n' => some '\n'
  | 'r' => some '\r'
  | 't' => some '\t'
  | _ => none

def unit? (a b c d : Char) : Option Nat := do
  return (((← hexValue? a) * 16 + (← hexValue? b)) * 16 + (← hexValue? c)) * 16 + (← hexValue? d)

/-- The pieces of a string up to its closing quote, and what follows. -/
def readPieces : List Char → Option (List Piece × List Char)
  | [] => none
  | '"' :: cs => some ([], cs)
  | '\\' :: 'u' :: a :: b :: c :: d :: cs => do
    let n ← unit? a b c d
    let (ps, rest) ← readPieces cs
    return (.unit n :: ps, rest)
  | '\\' :: l :: cs => do
    let c ← ofLetter? l
    let (ps, rest) ← readPieces cs
    return (.char c :: ps, rest)
  | c :: cs =>
    if c = '\\' ∨ c.toNat < 32 then none
    else do
      let (ps, rest) ← readPieces cs
      return (.char c :: ps, rest)

/-- One digit or more. -/
def readDigits (cs : List Char) : Option (List Char × List Char) :=
  match cs.takeWhile Decimal.isDigit with
  | [] => none
  | ds => some (ds, cs.dropWhile Decimal.isDigit)

def readFraction : List Char → Option (Option (List Char) × List Char)
  | '.' :: cs => (readDigits cs).map fun (ds, rest) => (some ds, rest)
  | cs => some (none, cs)

/-- An exponent, if there is one; its sign is true when negative. -/
def readExponent (cs : List Char) : Option (Option (Bool × List Char) × List Char) :=
  match cs with
  | e :: rest =>
    if e = 'e' ∨ e = 'E' then
      match rest with
      | '-' :: r => (readDigits r).map fun (ds, rest) => (some (true, ds), rest)
      | '+' :: r => (readDigits r).map fun (ds, rest) => (some (false, ds), rest)
      | r => (readDigits r).map fun (ds, rest) => (some (false, ds), rest)
    else some (none, cs)
  | [] => some (none, cs)

/-- A numeral; a leading zero stands alone before the point. -/
def readNumeral (cs : List Char) : Option (Numeral × List Char) := do
  let negative := cs.head? = some '-'
  let (whole, cs) ← readDigits (if negative then cs.drop 1 else cs)
  if whole.length > 1 ∧ whole.head? = some '0' then none
  else
    let (fraction, cs) ← readFraction cs
    let (exponent, cs) ← readExponent cs
    return (⟨negative, whole, fraction, exponent⟩, cs)

mutual

/-- A value and what follows; the first argument bounds the depth of the recursion. -/
def readValue : Nat → List Char → Option (Tree × List Char)
  | 0, _ => none
  | fuel + 1, cs =>
    match skipBlanks cs with
    | [] => none
    | 'n' :: cs => (dropWord? "ull".toList cs).map (.null, ·)
    | 't' :: cs => (dropWord? "rue".toList cs).map (.bool true, ·)
    | 'f' :: cs => (dropWord? "alse".toList cs).map (.bool false, ·)
    | '"' :: cs => (readPieces cs).map fun (ps, rest) => (.text ps, rest)
    | '[' :: cs =>
      match skipBlanks cs with
      | ']' :: rest => some (.list [], rest)
      | cs => (readItems fuel cs).map fun (vs, rest) => (.list vs, rest)
    | '{' :: cs =>
      match skipBlanks cs with
      | '}' :: rest => some (.record [], rest)
      | cs => (readMembers fuel cs).map fun (ms, rest) => (.record ms, rest)
    | cs => (readNumeral cs).map fun (n, rest) => (.number n, rest)

def readItems : Nat → List Char → Option (List Tree × List Char)
  | 0, _ => none
  | fuel + 1, cs => do
    let (v, cs) ← readValue fuel cs
    match skipBlanks cs with
    | ',' :: cs =>
      let (vs, rest) ← readItems fuel cs
      return (v :: vs, rest)
    | ']' :: rest => return ([v], rest)
    | _ => none

def readMembers : Nat → List Char → Option (List (List Piece × Tree) × List Char)
  | 0, _ => none
  | fuel + 1, cs =>
    match skipBlanks cs with
    | '"' :: cs => do
      let (name, cs) ← readPieces cs
      match skipBlanks cs with
      | ':' :: cs =>
        let (v, cs) ← readValue fuel cs
        match skipBlanks cs with
        | ',' :: cs =>
          let (ms, rest) ← readMembers fuel cs
          return ((name, v) :: ms, rest)
        | '}' :: rest => return ([(name, v)], rest)
        | _ => none
      | _ => none
    | _ => none

end

/-- The tree of a text that holds one value and nothing else but blanks. Two levels of recursion
for each character are enough. -/
def ofChars? (cs : List Char) : Option Tree :=
  match readValue (2 * cs.length + 2) cs with
  | some (t, rest) => if (skipBlanks rest).isEmpty then some t else none
  | none => none

def ofText? (s : String) : Option Tree := ofChars? s.toList

end Tree

end ShopTraffic
