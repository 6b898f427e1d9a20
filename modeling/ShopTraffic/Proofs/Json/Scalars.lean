import Mathlib.Tactic.Common
import ShopTraffic.Json.Printer
import ShopTraffic.Json.Reader

/-!
Strings and integers, written and read again. What is read of a string are its pieces, one for each
character, and of an integer its numeral; both mean what was written. An integer is read to its end
only if what follows it cannot be a part of it.
-/

namespace ShopTraffic

namespace Decimal

variable {n : Nat} {c : Char}

lemma isDigit_of_mem_numeral (h : c ∈ numeral n) : isDigit c = true := by
  have hdigit := Nat.isDigit_of_mem_toDigits (by decide) (by decide) h
  simpa [isDigit, Char.isDigit, Char.le_def] using hdigit

lemma numeral_ne_nil (n : Nat) : numeral n ≠ [] := Nat.toDigits_ne_nil

/-- A numeral has the value that it is made from. -/
lemma value_numeral (n : Nat) : value (numeral n) = n := by
  have h := Nat.ofDigitChars_ten_toDigits (n := n)
  simp only [Nat.ofDigitChars_eq_foldl, Nat.mul_comm 10] at h
  exact h

/-- A numeral that begins with a zero is that zero. -/
lemma length_numeral_of_head (h : (numeral n).head? = some '0') : (numeral n).length ≤ 1 := by
  have hpos : ∀ m, 0 < m → (numeral m).head? ≠ some '0' := by
    intro m
    induction m using Nat.strongRecOn with
    | ind m ih =>
      intro hm
      rw [numeral, Nat.toDigits_eq_if (by decide)]
      split_ifs with hlt
      · have hsmall : ∀ d < 10, 0 < d → [d.digitChar].head? ≠ some '0' := by decide
        exact hsmall m hlt hm
      · rw [List.head?_append, Option.or_of_isSome (by simp [Nat.toDigits_ne_nil])]
        exact ih (m / 10) (by omega) (by omega)
  rcases Nat.eq_zero_or_pos n with rfl | hn
  · decide
  · exact absurd h (hpos n hn)

end Decimal

/-! ### Strings -/

namespace Piece

/-- The piece that a character is written as: control characters without a letter of their own are
numbered. -/
def ofChar (c : Char) : Piece :=
  match Json.letterOf? c with
  | some _ => .char c
  | none => if c.toNat < 32 then .unit c.toNat else .char c

def ofString (s : String) : List Piece := s.toList.map ofChar

lemma chars?_map_ofChar (cs : List Char) : chars? (cs.map ofChar) = some cs := by
  induction cs with
  | nil => rfl
  | cons c cs ih =>
    rw [List.map_cons, ofChar]
    split
    · rw [chars?, ih, Option.map_some]
    split_ifs with hlow
    · rw [chars?.eq_def]
      simp only
      rw [if_pos (.inl (by omega)), ih, Option.map_some, Char.ofNat_toNat]
    · rw [chars?, ih, Option.map_some]

/-- A string means what it was written from. -/
lemma string?_ofString (s : String) : string? (ofString s) = some s := by
  simp [string?, ofString, chars?_map_ofChar]

end Piece

/-- An integer begins with a minus or a digit. -/
lemma Json.exists_cons_printInteger (i : Int) :
    ∃ c cs, printInteger i = c :: cs ∧ (c = '-' ∨ Decimal.isDigit c = true) := by
  rw [printInteger]
  split_ifs
  · exact ⟨_, _, rfl, .inl rfl⟩
  · obtain ⟨d, ds, hds⟩ := List.exists_cons_of_ne_nil (Decimal.numeral_ne_nil i.natAbs)
    have hd : d ∈ Decimal.numeral i.natAbs := hds ▸ List.mem_cons_self
    exact ⟨d, ds, hds, .inr (Decimal.isDigit_of_mem_numeral hd)⟩

def Numeral.ofInt (i : Int) : Numeral := ⟨i < 0, Decimal.numeral i.natAbs, none, none⟩

/-- An integer that stands for no integer: it is read as a float. -/
def Number.minusZero : Number := .real (-0)

def Numeral.minusZero : Numeral := ⟨true, ['0'], some ['0'], none⟩

lemma Numeral.number?_minusZero : minusZero.number? = some .minusZero := by
  decide +kernel

/-- The integer that a numeral spells, if it has neither a fraction nor an exponent. -/
def Numeral.integer? (x : Numeral) : Option Int :=
  if x.fraction = none ∧ x.exponent = none then
    some (if x.negative then -(Decimal.value x.whole : Int) else Decimal.value x.whole)
  else none

/-- Only what spells an integer is read as one. -/
lemma Numeral.integer?_of_number? {x : Numeral} {i : Int} (h : x.number? = some (.integer i)) :
    x.integer? = some i ∧ Json.minInteger ≤ i ∧ i ≤ Json.maxInteger := by
  rw [number?] at h
  by_cases hfits : x.fraction.isNone ∧ x.exponent.isNone ∧
      (if x.negative then 0 < Decimal.value x.whole ∧ Decimal.value x.whole ≤ 2 ^ 63
        else Decimal.value x.whole < 2 ^ 64)
  · rw [if_pos hfits] at h
    obtain ⟨hf, he, hvalue⟩ := hfits
    obtain rfl := Number.integer.inj (Option.some.inj h)
    refine ⟨if_pos ⟨Option.isNone_iff_eq_none.mp hf, Option.isNone_iff_eq_none.mp he⟩, ?_⟩
    rw [Json.minInteger, Json.maxInteger]
    split_ifs at hvalue ⊢ <;> omega
  · rw [if_neg hfits] at h
    cases hfloat : x.float? <;> simp [hfloat] at h

lemma Decimal.le_foldl_value (n : Nat) (ds : List Char) :
    n ≤ ds.foldl (fun n d => n * 10 + (d.toNat - 48)) n := by
  induction ds generalizing n with
  | nil => exact Nat.le_refl n
  | cons d ds ih => exact Nat.le_trans (by omega) (ih (n * 10 + (d.toNat - 48)))

lemma takeFitting_eq_zero {n : Nat} {ds : List Char}
    (h : ds.foldl (fun n d => n * 10 + (d.toNat - 48)) n = 0) : takeFitting n ds = (0, []) := by
  induction ds generalizing n with
  | nil => rw [takeFitting]; exact Prod.ext h rfl
  | cons d ds ih =>
    have hle := Decimal.le_foldl_value (n * 10 + (d.toNat - 48)) ds
    rw [List.foldl_cons] at h
    rw [takeFitting, if_pos (by omega), ih h]

lemma Numeral.number?_of_minus {x : Numeral} (hneg : x.negative = true)
    (hvalue : Decimal.value x.whole = 0) (hf : x.fraction = none) (he : x.exponent = none) :
    x.number? = some .minusZero := by
  have hzero : scaled? 0 0 = some 0 := by decide +kernel
  have htake : takeFitting 0 x.whole = (0, []) := takeFitting_eq_zero hvalue
  have hfloat : x.float? = some (-0) := by
    simp [float?, htake, takeFitting, hf, he, hneg, hzero]
  simp [number?, hneg, hvalue, hfloat, Number.minusZero]

/-- What spells an integer that a number can be is read as that integer; minus zero is a float. -/
lemma Numeral.number?_of_integer? {x : Numeral} {i : Int} (h : x.integer? = some i)
    (hlow : Json.minInteger ≤ i) (hhigh : i ≤ Json.maxInteger) :
    x.number? = some (.integer i) ∨ x.number? = some .minusZero := by
  simp only [integer?] at h
  split at h
  · next hspelled =>
    obtain ⟨hf, he⟩ := hspelled
    obtain rfl := Option.some.inj h
    rw [Json.minInteger] at hlow
    rw [Json.maxInteger] at hhigh
    by_cases hzero : x.negative = true ∧ Decimal.value x.whole = 0
    · exact .inr (number?_of_minus hzero.1 hzero.2 hf he)
    · refine .inl (if_pos ⟨by rw [hf]; rfl, by rw [he]; rfl, ?_⟩)
      split_ifs at hlow hhigh ⊢ with hneg
      · have hpos : Decimal.value x.whole ≠ 0 := fun h0 => hzero ⟨hneg, h0⟩
        omega
      · omega
  · cases h

/-- An integer that a number can be means itself. -/
lemma Numeral.number?_ofInt {i : Int} (hlow : Json.minInteger ≤ i) (hhigh : i ≤ Json.maxInteger) :
    (ofInt i).number? = some (.integer i) := by
  have hfits : if i < 0 then 0 < i.natAbs ∧ i.natAbs ≤ 2 ^ 63 else i.natAbs < 2 ^ 64 := by
    simp only [Json.minInteger, Json.maxInteger] at hlow hhigh
    split_ifs <;> omega
  have hsign : (if i < 0 then -(i.natAbs : Int) else i.natAbs) = i := by
    split_ifs <;> omega
  simp only [number?, ofInt, Decimal.value_numeral, decide_eq_true_eq]
  rw [if_pos ⟨rfl, rfl, hfits⟩, hsign]

namespace Tree

lemma unit?_hexDigit : ∀ n < 32,
    unit? '0' '0' (Json.hexDigit (n / 16)) (Json.hexDigit (n % 16)) = some n := by
  decide

/-- A character that stands for itself. -/
lemma readPieces_plain {c : Char} (hquote : c ≠ '"') (hbackslash : c ≠ '\\')
    (hhigh : ¬c.toNat < 32) (cs : List Char) :
    readPieces (c :: cs) = (readPieces cs).map fun (ps, rest) => (.char c :: ps, rest) := by
  rw [readPieces.eq_def]
  split
  case h_1 h => cases h
  case h_2 h => exact absurd (List.cons.inj h).1 hquote
  case h_3 h | h_4 h => exact absurd (List.cons.inj h).1 hbackslash
  case h_5 h =>
    obtain ⟨rfl, rfl⟩ := List.cons.inj h
    rw [if_neg (not_or.mpr ⟨hbackslash, hhigh⟩)]
    cases readPieces cs <;> rfl

/-- A character is one piece. -/
lemma readPieces_escaped (c : Char) (cs : List Char) :
    readPieces (Json.escaped c ++ cs) =
      (readPieces cs).map fun (ps, rest) => (Piece.ofChar c :: ps, rest) := by
  rw [Json.escaped, Piece.ofChar]
  cases hletter : Json.letterOf? c with
  | some l =>
    unfold Json.letterOf? at hletter
    split at hletter <;> cases hletter <;> cases h : readPieces cs <;>
      simp [readPieces, ofLetter?, h]
  | none =>
    simp only
    split_ifs with hlow
    · cases h : readPieces cs <;> simp [readPieces, unit?_hexDigit _ hlow, h]
    · refine readPieces_plain (fun h => ?_) (fun h => ?_) hlow cs
      all_goals exact Option.some_ne_none _ (h ▸ hletter)

/-- **A string is read up to its closing quote.** -/
lemma readPieces_quoted (s : String) (rest : List Char) :
    readPieces (s.toList.flatMap Json.escaped ++ '"' :: rest) = some (Piece.ofString s, rest) := by
  rw [Piece.ofString]
  induction s.toList with
  | nil => rfl
  | cons c cs ih =>
    rw [List.flatMap_cons, List.append_assoc, readPieces_escaped, ih]
    rfl

/-! ### Integers -/

def separators : List Char := [',', ']', '}', ':']

/-- Nothing follows a value, or a blank, or what separates it from what is next. -/
def Ends (rest : List Char) : Prop := ∀ c ∈ rest.head?, isBlank c = true ∨ c ∈ separators

variable {ds rest : List Char}

/-- What follows a value is no part of a numeral. -/
lemma Ends.head (hrest : Ends rest) :
    ∀ c ∈ rest.head?, Decimal.isDigit c = false ∧ c ≠ '.' ∧ c ≠ 'e' ∧ c ≠ 'E' := by
  intro c hc
  rcases hrest c hc with hblank | hseparates
  · simp only [isBlank, Bool.or_eq_true, decide_eq_true_eq] at hblank
    rcases hblank with ((rfl | rfl) | rfl) | rfl <;> decide
  · simp only [separators, List.mem_cons, List.not_mem_nil, or_false] at hseparates
    rcases hseparates with rfl | rfl | rfl | rfl <;> decide

/-- Digits are read up to what is no digit. -/
lemma readDigits_append (hne : ds ≠ []) (hds : ∀ c ∈ ds, Decimal.isDigit c = true)
    (hrest : ∀ c ∈ rest.head?, Decimal.isDigit c = false) :
    readDigits (ds ++ rest) = some (ds, rest) := by
  have htake : (ds ++ rest).takeWhile Decimal.isDigit = ds := by
    rw [List.takeWhile_append_of_pos hds]
    cases rest <;> simp_all
  have hdrop : (ds ++ rest).dropWhile Decimal.isDigit = rest := by
    rw [List.dropWhile_append_of_pos hds]
    cases rest <;> simp_all
  rw [readDigits, htake, hdrop]
  cases ds with
  | nil => exact absurd rfl hne
  | cons d ds => rfl

lemma readFraction_none (hrest : ∀ c ∈ rest.head?, c ≠ '.') :
    readFraction rest = some (none, rest) := by
  rw [readFraction.eq_def]
  split
  · next cs => exact absurd rfl (hrest '.' rfl)
  · rfl

lemma readExponent_none (hrest : ∀ c ∈ rest.head?, c ≠ 'e' ∧ c ≠ 'E') :
    readExponent rest = some (none, rest) := by
  rw [readExponent.eq_def]
  split
  · next e cs => rw [if_neg (not_or.mpr (hrest e rfl))]
  · rfl

lemma Ends.readFraction (hrest : Ends rest) : readFraction rest = some (none, rest) :=
  readFraction_none fun c hc => (hrest.head c hc).2.1

lemma Ends.readExponent (hrest : Ends rest) : readExponent rest = some (none, rest) :=
  readExponent_none fun c hc => (hrest.head c hc).2.2

lemma skipBlanks_cons {c : Char} (h : isBlank c = false) (cs : List Char) :
    skipBlanks (c :: cs) = c :: cs := by
  rw [skipBlanks, h]
  rfl

/-- No numeral begins with a blank. -/
lemma isBlank_of_numeral {c : Char} (h : c = '-' ∨ Decimal.isDigit c = true) :
    isBlank c = false := by
  rcases h with rfl | h
  · rfl
  · simp only [isBlank, Bool.or_eq_false_iff, decide_eq_false_iff_not]
    refine ⟨⟨⟨?_, ?_⟩, ?_⟩, ?_⟩ <;> rintro rfl <;> cases h

lemma readNumeral_numeral {cs : List Char} {negative : Bool} {n : Nat} (hrest : Ends rest)
    (hsign : decide (cs.head? = some '-') = negative)
    (hbody : (if cs.head? = some '-' then cs.drop 1 else cs) = Decimal.numeral n ++ rest) :
    readNumeral cs = some (⟨negative, Decimal.numeral n, none, none⟩, rest) := by
  have hdigits := readDigits_append (Decimal.numeral_ne_nil n)
    (fun _ => Decimal.isDigit_of_mem_numeral) fun c hc => (hrest.head c hc).1
  have hzero : ¬((Decimal.numeral n).length > 1 ∧ (Decimal.numeral n).head? = some '0') :=
    fun h => absurd (Decimal.length_numeral_of_head h.2) (by omega)
  simp only [readNumeral, hsign, hbody, hdigits, Option.bind_eq_bind,
    Option.bind_some, if_neg hzero, hrest.readFraction, hrest.readExponent]
  rfl

/-- **An integer is read to its end.** -/
lemma readNumeral_printInteger (i : Int) (hrest : Ends rest) :
    readNumeral (Json.printInteger i ++ rest) = some (.ofInt i, rest) := by
  by_cases hneg : i < 0
  · have h : Json.printInteger i = '-' :: Decimal.numeral i.natAbs := if_pos hneg
    rw [h, Numeral.ofInt, decide_eq_true hneg]
    exact readNumeral_numeral hrest rfl rfl
  · have h : Json.printInteger i = Decimal.numeral i.natAbs := if_neg hneg
    rw [h, Numeral.ofInt, decide_eq_false hneg]
    obtain ⟨d, ds, hds⟩ := List.exists_cons_of_ne_nil (Decimal.numeral_ne_nil i.natAbs)
    have hd : d ∈ Decimal.numeral i.natAbs := hds ▸ List.mem_cons_self
    have hplus : ¬(Decimal.numeral i.natAbs ++ rest).head? = some '-' := by
      rw [hds]
      rintro ⟨rfl⟩
      cases Decimal.isDigit_of_mem_numeral hd
    exact readNumeral_numeral hrest (decide_eq_false hplus) (if_neg hplus)

/-- Minus zero is written as a float, and read as one. -/
lemma readNumeral_minusZero (hrest : Ends rest) :
    readNumeral (Json.Number.print .minusZero ++ rest) = some (.minusZero, rest) := by
  have hprint : Json.Number.print .minusZero = ['-', '0', '.', '0'] := by decide +kernel
  have hdigits : readDigits (['0'] ++ rest) = some (['0'], rest) :=
    readDigits_append (List.cons_ne_nil _ _) (by simp [Decimal.isDigit]) fun c hc =>
      (hrest.head c hc).1
  have hfraction : Tree.readFraction ('.' :: '0' :: rest) = some (some ['0'], rest) := by
    rw [Tree.readFraction, ← List.singleton_append, hdigits]
    rfl
  have hwhole : readDigits ('0' :: '.' :: '0' :: rest) = some (['0'], '.' :: '0' :: rest) := by
    simp [readDigits, Decimal.isDigit]
  rw [hprint]
  simp only [readNumeral, List.cons_append, List.nil_append, List.head?_cons, List.drop_succ_cons,
    List.drop_zero, decide_true, if_true, hwhole, Option.bind_eq_bind, Option.bind_some, hfraction,
    hrest.readExponent]
  rfl

end Tree

end ShopTraffic
