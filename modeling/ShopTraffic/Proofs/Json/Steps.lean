import Mathlib.Data.List.TakeWhile
import ShopTraffic.Proofs.Json.RoundTrip

/-!
The reader, one step at a time. What it does at the first character of a value, of an item and of a
member is said here once. A string and a numeral are read to the same end whatever follows them, as
long as that is no part of the numeral.
-/

namespace ShopTraffic

namespace Tree

def Blank (cs : List Char) : Prop := ∀ c ∈ cs, isBlank c = true

variable {fuel : Nat} {cs r rest a b : List Char} {t : Tree}

/-- A property of whatever character comes first. -/
lemma head_append {p : Char → Prop} (ha : ∀ c ∈ a.head?, p c) (hb : ∀ c ∈ b.head?, p c) :
    ∀ c ∈ (a ++ b).head?, p c := by
  cases a with
  | nil => exact hb
  | cons c a => exact ha

/-! ### Blanks -/

lemma skipBlanks_eq (cs : List Char) : skipBlanks cs = cs.dropWhile isBlank := by
  induction cs with
  | nil => rfl
  | cons c cs ih => rw [skipBlanks, List.dropWhile_cons, ih]

lemma skipBlanks_append (hb : Blank b) (cs : List Char) : skipBlanks (b ++ cs) = skipBlanks cs := by
  rw [skipBlanks_eq, skipBlanks_eq, List.dropWhile_append_of_pos hb]

lemma exists_blank (cs : List Char) : ∃ b, Blank b ∧ cs = b ++ skipBlanks cs := by
  refine ⟨cs.takeWhile isBlank, fun c hc => List.mem_takeWhile_imp hc, ?_⟩
  rw [skipBlanks_eq, List.takeWhile_append_dropWhile]

lemma skipBlanks_idem (cs : List Char) : skipBlanks (skipBlanks cs) = skipBlanks cs := by
  obtain ⟨b, hb, hcs⟩ := exists_blank cs
  conv_rhs => rw [hcs, skipBlanks_append hb]

lemma Blank.skipBlanks (hb : Blank b) : skipBlanks b = [] := by
  rw [skipBlanks_eq, List.dropWhile_eq_nil_iff]
  exact hb

lemma Blank.ends (hb : Blank b) (hrest : Ends rest) : Ends (b ++ rest) :=
  head_append (fun c hc => .inl (hb c (List.mem_of_mem_head? hc))) hrest

/-- Blanks in front of a value do not matter. -/
lemma readValue_skipBlanks (fuel : Nat) (cs : List Char) :
    readValue fuel (skipBlanks cs) = readValue fuel cs := by
  cases fuel with
  | zero => rw [readValue, readValue]
  | succ fuel => rw [readValue, readValue, skipBlanks_idem]

lemma readItems_skipBlanks (fuel : Nat) (cs : List Char) :
    readItems fuel (skipBlanks cs) = readItems fuel cs := by
  cases fuel with
  | zero => rw [readItems, readItems]
  | succ fuel => rw [readItems, readItems, readValue_skipBlanks]

lemma readMembers_skipBlanks (fuel : Nat) (cs : List Char) :
    readMembers fuel (skipBlanks cs) = readMembers fuel cs := by
  cases fuel with
  | zero => rw [readMembers, readMembers]
  | succ fuel => rw [readMembers, readMembers, skipBlanks_idem]

/-! ### Words, strings and numerals -/

lemma dropWord?_eq_some {w : List Char} : dropWord? w cs = some r ↔ cs = w ++ r := by
  induction w generalizing cs with
  | nil => simp [dropWord?]
  | cons c w ih =>
    cases cs with
    | nil => simp [dropWord?]
    | cons d cs =>
      rw [dropWord?]
      split_ifs with h
      · simp [ih, h]
      · simp [Ne.symm h]

/-- The pieces of a string do not depend on what is behind its closing quote. -/
lemma exists_pieces {ps : List Piece} (h : readPieces cs = some (ps, r)) :
    ∃ a, cs = a ++ r ∧ ∀ rest, readPieces (a ++ rest) = some (ps, rest) := by
  fun_induction readPieces cs generalizing ps with
  | case1 => cases h
  | case2 cs =>
    obtain ⟨rfl, rfl⟩ := Prod.mk.inj (Option.some.inj h)
    exact ⟨['"'], rfl, fun rest => rfl⟩
  | case3 a b c d cs ih =>
    simp only [Option.bind_eq_bind, Option.bind_eq_some_iff] at h
    obtain ⟨n, hn, ⟨qs, r'⟩, hqs, h⟩ := h
    obtain ⟨rfl, rfl⟩ := Prod.mk.inj (Option.some.inj h)
    obtain ⟨x, rfl, hx⟩ := ih hqs
    exact ⟨'\\' :: 'u' :: a :: b :: c :: d :: x, rfl, fun rest => by simp [readPieces, hn, hx]⟩
  | case4 l cs hu ih =>
    simp only [Option.bind_eq_bind, Option.bind_eq_some_iff] at h
    obtain ⟨c, hc, ⟨qs, r'⟩, hqs, h⟩ := h
    obtain ⟨rfl, rfl⟩ := Prod.mk.inj (Option.some.inj h)
    obtain ⟨x, rfl, hx⟩ := ih hqs
    refine ⟨'\\' :: l :: x, rfl, fun rest => ?_⟩
    -- no letter stands for a numbered unit
    have hl : l ≠ 'u' := by rintro rfl; cases hc
    simp [readPieces, hl, hc, hx]
  | case5 => cases h
  | case6 c cs hquote hunit hletter hplain ih =>
    simp only [Option.bind_eq_bind, Option.bind_eq_some_iff] at h
    obtain ⟨⟨qs, r'⟩, hqs, h⟩ := h
    obtain ⟨rfl, rfl⟩ := Prod.mk.inj (Option.some.inj h)
    obtain ⟨x, rfl, hx⟩ := ih hqs
    obtain ⟨hbackslash, hhigh⟩ := not_or.mp hplain
    refine ⟨c :: x, rfl, fun rest => ?_⟩
    rw [List.cons_append, readPieces_plain hquote hbackslash hhigh, hx]
    rfl

/-- The numeral's digits, and what stops them. -/
lemma readDigits_eq_some {ds : List Char} (h : readDigits cs = some (ds, r)) :
    cs = ds ++ r ∧ ds ≠ [] ∧ ∀ c ∈ ds, Decimal.isDigit c = true := by
  rw [readDigits] at h
  split at h
  · cases h
  · next hne =>
    obtain ⟨rfl, rfl⟩ := Prod.mk.inj (Option.some.inj h)
    exact ⟨List.takeWhile_append_dropWhile.symm, hne, fun c hc => List.mem_takeWhile_imp hc⟩

/-- A fraction begins with a point. -/
lemma exists_fraction {f : Option (List Char)} (h : readFraction cs = some (f, r)) :
    ∃ a, cs = a ++ r ∧ (∀ c ∈ a.head?, c = '.') ∧
      ∀ rest, (∀ c ∈ rest.head?, Decimal.isDigit c = false ∧ c ≠ '.') →
        readFraction (a ++ rest) = some (f, rest) := by
  rw [readFraction.eq_def] at h
  split at h
  · obtain ⟨⟨ds, r'⟩, hds, h⟩ := Option.map_eq_some_iff.mp h
    obtain ⟨rfl, rfl⟩ := Prod.mk.inj h
    obtain ⟨rfl, hne, hdigits⟩ := readDigits_eq_some hds
    refine ⟨'.' :: ds, rfl, by simp, fun rest hrest => ?_⟩
    have hread := readDigits_append hne hdigits fun c hc => (hrest c hc).1
    rw [List.cons_append, readFraction, hread]
    rfl
  · obtain ⟨rfl, rfl⟩ := Prod.mk.inj (Option.some.inj h)
    exact ⟨[], rfl, by simp, fun rest hrest => readFraction_none fun c hc => (hrest c hc).2⟩

/-- An exponent, with either sign or without one. -/
lemma readExponent_append {l : Char} {ds : List Char} (hl : l = 'e' ∨ l = 'E') (hne : ds ≠ [])
    (hds : ∀ c ∈ ds, Decimal.isDigit c = true)
    (hrest : ∀ c ∈ rest.head?, Decimal.isDigit c = false) :
    readExponent (l :: '-' :: (ds ++ rest)) = some (some (true, ds), rest) ∧
    readExponent (l :: '+' :: (ds ++ rest)) = some (some (false, ds), rest) ∧
    readExponent (l :: (ds ++ rest)) = some (some (false, ds), rest) := by
  have hread := readDigits_append hne hds hrest
  refine ⟨by simp [readExponent, hl, hread], by simp [readExponent, hl, hread], ?_⟩
  -- a digit is no sign
  obtain ⟨d, ds, rfl⟩ := List.exists_cons_of_ne_nil hne
  have hd := hds d List.mem_cons_self
  have hminus : d ≠ '-' := by rintro rfl; cases hd
  have hplus : d ≠ '+' := by rintro rfl; cases hd
  rw [List.cons_append] at hread ⊢
  simp [readExponent, hl, hread, hminus, hplus]

/-- An exponent begins with its letter. -/
lemma exists_exponent {e : Option (Bool × List Char)} (h : readExponent cs = some (e, r)) :
    ∃ a, cs = a ++ r ∧ (∀ c ∈ a.head?, c = 'e' ∨ c = 'E') ∧
      ∀ rest, (∀ c ∈ rest.head?, Decimal.isDigit c = false ∧ c ≠ 'e' ∧ c ≠ 'E') →
        readExponent (a ++ rest) = some (e, rest) := by
  rw [readExponent.eq_def] at h
  split at h
  · next l cs' =>
    split_ifs at h with hl
    · split at h
      all_goals
        obtain ⟨⟨ds, r'⟩, hds, h⟩ := Option.map_eq_some_iff.mp h
        obtain ⟨rfl, rfl⟩ := Prod.mk.inj h
        obtain ⟨rfl, hne, hds⟩ := readDigits_eq_some hds
        have hread := fun (rest : List Char)
            (hrest : ∀ c ∈ rest.head?, Decimal.isDigit c = false ∧ c ≠ 'e' ∧ c ≠ 'E') =>
          readExponent_append hl hne hds fun c hc => (hrest c hc).1
      · exact ⟨l :: '-' :: ds, rfl, by simpa using hl, fun rest hrest => (hread rest hrest).1⟩
      · exact ⟨l :: '+' :: ds, rfl, by simpa using hl, fun rest hrest => (hread rest hrest).2.1⟩
      · exact ⟨l :: ds, rfl, by simpa using hl, fun rest hrest => (hread rest hrest).2.2⟩
    · obtain ⟨rfl, rfl⟩ := Prod.mk.inj (Option.some.inj h)
      exact ⟨[], rfl, by simp, fun rest hrest => readExponent_none fun c hc => (hrest c hc).2⟩
  · obtain ⟨rfl, rfl⟩ := Prod.mk.inj (Option.some.inj h)
    exact ⟨[], rfl, by simp, fun rest hrest => readExponent_none fun c hc => (hrest c hc).2⟩

/-- A numeral is the same before whatever is no part of it. -/
lemma exists_numeral {x : Numeral} (h : readNumeral cs = some (x, r)) :
    ∃ c a, cs = c :: a ++ r ∧ (c = '-' ∨ Decimal.isDigit c = true) ∧
      ∀ rest, Ends rest → readNumeral (c :: a ++ rest) = some (x, rest) := by
  simp only [readNumeral, Option.bind_eq_bind, Option.bind_eq_some_iff] at h
  obtain ⟨⟨whole, cs₁⟩, hwhole, h⟩ := h
  split_ifs at h with hzero
  simp only [Option.bind_eq_some_iff] at h
  obtain ⟨⟨f, cs₂⟩, hf, ⟨e, cs₃⟩, he, h⟩ := h
  obtain ⟨rfl, rfl⟩ := Prod.mk.inj (Option.some.inj h)
  obtain ⟨hbody, hne, hdigits⟩ := readDigits_eq_some hwhole
  obtain ⟨fa, rfl, hfa, hfraction⟩ := exists_fraction hf
  obtain ⟨ea, rfl, hea, hexponent⟩ := exists_exponent he
  -- each part stops where the next one begins, or what follows the numeral
  have hparts : ∀ rest, Ends rest →
      readDigits (whole ++ (fa ++ (ea ++ rest))) = some (whole, fa ++ (ea ++ rest)) ∧
      readFraction (fa ++ (ea ++ rest)) = some (f, ea ++ rest) ∧
      readExponent (ea ++ rest) = some (e, rest) := by
    intro rest hrest
    have hletter : ∀ c ∈ (ea ++ rest).head?, Decimal.isDigit c = false ∧ c ≠ '.' := by
      refine head_append (fun c hc => ?_) fun c hc => ⟨(hrest.head c hc).1, (hrest.head c hc).2.1⟩
      rcases hea c hc with rfl | rfl <;> decide
    refine ⟨readDigits_append hne hdigits (head_append (fun c hc => ?_) fun c hc =>
      (hletter c hc).1), hfraction _ hletter, hexponent _ fun c hc => ?_⟩
    · rw [hfa c hc]; rfl
    · exact ⟨(hrest.head c hc).1, (hrest.head c hc).2.2⟩
  by_cases hminus : cs.head? = some '-'
  · obtain ⟨cs', rfl⟩ := List.head?_eq_some_iff.mp hminus
    rw [if_pos (by simp), List.drop_one, List.tail_cons] at hbody
    refine ⟨'-', whole ++ fa ++ ea, by simp [hbody], .inl rfl, fun rest hrest => ?_⟩
    obtain ⟨h₁, h₂, h₃⟩ := hparts rest hrest
    simp [readNumeral, h₁, h₂, h₃, hzero]
  · rw [if_neg (by simpa using hminus)] at hbody
    obtain ⟨d, ds, rfl⟩ := List.exists_cons_of_ne_nil hne
    have hd := hdigits d List.mem_cons_self
    refine ⟨d, ds ++ fa ++ ea, by simp [hbody], .inr hd, fun rest hrest => ?_⟩
    obtain ⟨h₁, h₂, h₃⟩ := hparts rest hrest
    have hplain : d ≠ '-' := by rintro rfl; cases hd
    rw [List.cons_append] at h₁
    simpa [readNumeral, h₁, h₂, h₃, hplain, hminus] using hzero

/-! ### One step of the reader -/

def words : List (List Char × Tree) :=
  [('n' :: "ull".toList, .null), ('t' :: "rue".toList, .bool true),
   ('f' :: "alse".toList, .bool false)]

/-- What is read from the first character of a value on, and what is left. -/
inductive Step (fuel : Nat) : List Char → Tree → List Char → Prop
  | word {w : List Char} {t : Tree} (hw : (w, t) ∈ words) (r : List Char) : Step fuel (w ++ r) t r
  | text {cs : List Char} {ps : List Piece} {r : List Char} (h : readPieces cs = some (ps, r)) :
    Step fuel ('"' :: cs) (.text ps) r
  | noItems {cs r : List Char} (h : skipBlanks cs = ']' :: r) : Step fuel ('[' :: cs) (.list []) r
  | items {cs : List Char} {vs : List Tree} {r : List Char} (h : readItems fuel cs = some (vs, r)) :
    Step fuel ('[' :: cs) (.list vs) r
  | noMembers {cs r : List Char} (h : skipBlanks cs = '}' :: r) :
    Step fuel ('{' :: cs) (.record []) r
  | members {cs : List Char} {ms : List (List Piece × Tree)} {r : List Char}
    (h : readMembers fuel cs = some (ms, r)) : Step fuel ('{' :: cs) (.record ms) r
  | number {cs : List Char} {x : Numeral} {r : List Char} (h : readNumeral cs = some (x, r)) :
    Step fuel cs (.number x) r

/-- No value begins with the bracket that closes a list. -/
lemma readItems_close {cs' : List Char} (h : skipBlanks cs = ']' :: cs') :
    readItems fuel cs = none := by
  cases fuel with
  | zero => rw [readItems]
  | succ fuel =>
    have hvalue : readValue fuel cs = none := by
      cases fuel with
      | zero => rw [readValue]
      | succ fuel =>
        rw [readValue, h]
        simp [readNumeral, readDigits, Decimal.isDigit]
    rw [readItems, hvalue]
    rfl

lemma readMembers_close {cs' : List Char} (h : skipBlanks cs = '}' :: cs') :
    readMembers fuel cs = none := by
  cases fuel with
  | zero => rw [readMembers]
  | succ fuel =>
    rw [readMembers, h]
    rfl

lemma readValue_eq_some :
    readValue (fuel + 1) cs = some (t, r) ↔ Step fuel (skipBlanks cs) t r := by
  constructor
  · intro h
    rw [readValue] at h
    split at h
    · cases h
    case h_2 heq | h_3 heq | h_4 heq =>
      obtain ⟨r', hr, h⟩ := Option.map_eq_some_iff.mp h
      obtain ⟨rfl, rfl⟩ := Prod.mk.inj h
      rw [heq, dropWord?_eq_some.mp hr, ← List.cons_append]
      exact .word (by simp [words]) r'
    · next heq =>
      obtain ⟨⟨ps, r'⟩, hps, h⟩ := Option.map_eq_some_iff.mp h
      obtain ⟨rfl, rfl⟩ := Prod.mk.inj h
      exact heq ▸ .text hps
    · next heq =>
      split at h
      · next hclose =>
        obtain ⟨rfl, rfl⟩ := Prod.mk.inj (Option.some.inj h)
        exact heq ▸ .noItems hclose
      · obtain ⟨⟨vs, r'⟩, hvs, h⟩ := Option.map_eq_some_iff.mp h
        obtain ⟨rfl, rfl⟩ := Prod.mk.inj h
        exact heq ▸ .items (readItems_skipBlanks _ _ ▸ hvs)
    · next heq =>
      split at h
      · next hclose =>
        obtain ⟨rfl, rfl⟩ := Prod.mk.inj (Option.some.inj h)
        exact heq ▸ .noMembers hclose
      · obtain ⟨⟨ms, r'⟩, hms, h⟩ := Option.map_eq_some_iff.mp h
        obtain ⟨rfl, rfl⟩ := Prod.mk.inj h
        exact heq ▸ .members (readMembers_skipBlanks _ _ ▸ hms)
    · obtain ⟨⟨x, r'⟩, hx, h⟩ := Option.map_eq_some_iff.mp h
      obtain ⟨rfl, rfl⟩ := Prod.mk.inj h
      exact .number hx
  · intro h
    generalize hcs : skipBlanks cs = x at h
    cases h with
    | word hw r =>
      simp only [words, List.mem_cons, List.not_mem_nil, or_false, Prod.mk.injEq] at hw
      rcases hw with ⟨rfl, rfl⟩ | ⟨rfl, rfl⟩ | ⟨rfl, rfl⟩ <;> rw [readValue, hcs] <;> rfl
    | text h =>
      rw [readValue, hcs]
      change (readPieces _).map _ = _
      rw [h]
      rfl
    | noItems h =>
      rw [readValue, hcs]
      simp only [h]
    | @items cs' vs r h =>
      rw [readValue, hcs]
      simp only
      split
      · next heq => rw [readItems_close heq] at h; cases h
      · rw [readItems_skipBlanks, h]; rfl
    | noMembers h =>
      rw [readValue, hcs]
      simp only [h]
    | @members cs' vs r h =>
      rw [readValue, hcs]
      simp only
      split
      · next heq => rw [readMembers_close heq] at h; cases h
      · rw [readMembers_skipBlanks, h]; rfl
    | number h =>
      obtain ⟨c, a, rfl, hhead, -⟩ := exists_numeral h
      rw [← readValue_skipBlanks, hcs, List.cons_append, readValue_numeral hhead,
        ← List.cons_append, h]
      rfl

/-- A name is read as a text is, whatever is left of the recursion. -/
lemma readValue_text {ps : List Piece} : readValue (fuel + 1) cs = some (.text ps, r) ↔
    ∃ cs', skipBlanks cs = '"' :: cs' ∧ readPieces cs' = some (ps, r) := by
  rw [readValue_eq_some]
  constructor
  · intro h
    generalize skipBlanks cs = x at h
    cases h with
    | word hw => simp [words] at hw
    | text h => exact ⟨_, rfl, h⟩
  · rintro ⟨cs', hcs, h⟩
    exact hcs ▸ .text h

/-- The items that are read: one, and behind a comma the others. -/
lemma readItems_eq_some {vs : List Tree} : readItems (fuel + 1) cs = some (vs, r) ↔
    ∃ v cs₁, readValue fuel cs = some (v, cs₁) ∧
      ((∃ cs₂ vs', skipBlanks cs₁ = ',' :: cs₂ ∧ readItems fuel cs₂ = some (vs', r) ∧
          vs = v :: vs') ∨
        skipBlanks cs₁ = ']' :: r ∧ vs = [v]) := by
  rw [readItems]
  simp only [Option.bind_eq_bind, Option.bind_eq_some_iff]
  constructor
  · rintro ⟨⟨v, cs₁⟩, hv, h⟩
    refine ⟨v, cs₁, hv, ?_⟩
    split at h
    · next heq =>
      obtain ⟨⟨vs', r'⟩, hvs, h⟩ := Option.bind_eq_some_iff.mp h
      obtain ⟨rfl, rfl⟩ := Prod.mk.inj (Option.some.inj h)
      exact .inl ⟨_, vs', heq, hvs, rfl⟩
    · next heq =>
      obtain ⟨rfl, rfl⟩ := Prod.mk.inj (Option.some.inj h)
      exact .inr ⟨heq, rfl⟩
    · cases h
  · rintro ⟨v, cs₁, hv, ⟨cs₂, vs', hcs, hvs, rfl⟩ | ⟨hcs, rfl⟩⟩
    · exact ⟨(v, cs₁), hv, by simp [hcs, hvs]⟩
    · exact ⟨(v, cs₁), hv, by simp [hcs]⟩

/-- The members that are read: a name and a value, and behind a comma the others. -/
lemma readMembers_eq_some {ms : List (List Piece × Tree)} :
    readMembers (fuel + 1) cs = some (ms, r) ↔
      ∃ name v cs₁ cs₂ cs₃, readValue 1 cs = some (.text name, cs₁) ∧
        skipBlanks cs₁ = ':' :: cs₂ ∧ readValue fuel cs₂ = some (v, cs₃) ∧
        ((∃ cs₄ ms', skipBlanks cs₃ = ',' :: cs₄ ∧ readMembers fuel cs₄ = some (ms', r) ∧
            ms = (name, v) :: ms') ∨
          skipBlanks cs₃ = '}' :: r ∧ ms = [(name, v)]) := by
  rw [readMembers]
  constructor
  · intro h
    split at h
    · next heq =>
      simp only [Option.bind_eq_bind, Option.bind_eq_some_iff] at h
      obtain ⟨⟨name, cs₁⟩, hname, h⟩ := h
      split at h
      · next hcolon =>
        obtain ⟨⟨v, cs₃⟩, hv, h⟩ := Option.bind_eq_some_iff.mp h
        refine ⟨name, v, cs₁, _, cs₃, readValue_text.mpr ⟨_, heq, hname⟩, hcolon, hv, ?_⟩
        split at h
        · next hcomma =>
          obtain ⟨⟨ms', r'⟩, hms, h⟩ := Option.bind_eq_some_iff.mp h
          obtain ⟨rfl, rfl⟩ := Prod.mk.inj (Option.some.inj h)
          exact .inl ⟨_, ms', hcomma, hms, rfl⟩
        · next hclose =>
          obtain ⟨rfl, rfl⟩ := Prod.mk.inj (Option.some.inj h)
          exact .inr ⟨hclose, rfl⟩
        · cases h
      · cases h
    · cases h
  · rintro ⟨name, v, cs₁, cs₂, cs₃, hname, hcolon, hv, h⟩
    obtain ⟨cs', hquote, hpieces⟩ := readValue_text.mp hname
    rcases h with ⟨cs₄, ms', hcomma, hms, rfl⟩ | ⟨hclose, rfl⟩
    · simp [hquote, hpieces, hcolon, hv, hcomma, hms]
    · simp [hquote, hpieces, hcolon, hv, hclose]

end Tree

end ShopTraffic
