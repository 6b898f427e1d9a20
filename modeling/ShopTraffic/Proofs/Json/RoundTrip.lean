import ShopTraffic.Proofs.Json.Fields
import ShopTraffic.Proofs.Json.Scalars

/-!
JSON texts, written and read again. A value whose numbers are integers is written as a text that has
one tree, and that tree means the value, if it is not nested too deeply and its objects have each
name once, in order. Of the floats this is shown for minus zero only, which is what an integer can
be read as.
-/

namespace ShopTraffic

namespace Json

/-- The value holds no floats, and containers at most down to the depth. -/
inductive Plain : Nat → Json → Prop
  | null {depth : Nat} : Plain depth .null
  | bool {depth : Nat} (b : Bool) : Plain depth (.bool b)
  | integer {depth : Nat} {i : Int} (low : minInteger ≤ i) (high : i ≤ maxInteger) :
    Plain depth (.number (.integer i))
  | text {depth : Nat} (s : String) : Plain depth (.text s)
  | list {depth : Nat} {vs : List Json} (items : ∀ v ∈ vs, Plain depth v) :
    Plain (depth + 1) (.list vs)
  | record {depth : Nat} {fs : Fields} (members : ∀ m ∈ fs, Plain depth m.2) :
    Plain (depth + 1) (.record fs)

/-- The same, with minus zero among the numbers. -/
inductive Legible : Nat → Json → Prop
  | null {depth : Nat} : Legible depth .null
  | bool {depth : Nat} (b : Bool) : Legible depth (.bool b)
  | integer {depth : Nat} {i : Int} (low : minInteger ≤ i) (high : i ≤ maxInteger) :
    Legible depth (.number (.integer i))
  | minusZero {depth : Nat} : Legible depth (.number .minusZero)
  | text {depth : Nat} (s : String) : Legible depth (.text s)
  | list {depth : Nat} {vs : List Json} (items : ∀ v ∈ vs, Legible depth v) :
    Legible (depth + 1) (.list vs)
  | record {depth : Nat} {fs : Fields} (members : ∀ m ∈ fs, Legible depth m.2) :
    Legible (depth + 1) (.record fs)

lemma Plain.legible {depth : Nat} {v : Json} (h : Plain depth v) : Legible depth v := by
  induction h with
  | null => exact .null
  | bool b => exact .bool b
  | integer low high => exact .integer low high
  | text s => exact .text s
  | list _ ih => exact .list ih
  | record _ ih => exact .record ih

/-- Every object in the value lists its members in the order of their names, each name once. -/
inductive Ordered : Json → Prop
  | null : Ordered .null
  | bool (b : Bool) : Ordered (.bool b)
  | number (n : Number) : Ordered (.number n)
  | text (s : String) : Ordered (.text s)
  | list {vs : List Json} (items : ∀ v ∈ vs, Ordered v) : Ordered (.list vs)
  | record {fs : Fields} (sorted : Fields.Sorted fs) (members : ∀ m ∈ fs, Ordered m.2) :
    Ordered (.record fs)

lemma Plain.of_record {depth : Nat} {fs : Fields} (h : Plain (depth + 1) (.record fs)) :
    ∀ m ∈ fs, Plain depth m.2 := by
  cases h with
  | record members => exact members

lemma Ordered.of_record {fs : Fields} (h : Ordered (.record fs)) :
    Fields.Sorted fs ∧ ∀ m ∈ fs, Ordered m.2 := by
  cases h with
  | record sorted members => exact ⟨sorted, members⟩

mutual

/-- The tree of what is written for a value. All floats stand for minus zero. -/
def tree : Json → Tree
  | .null => .null
  | .bool b => .bool b
  | .number (.integer i) => .number (.ofInt i)
  | .number (.real _) => .number .minusZero
  | .text s => .text (Piece.ofString s)
  | .list vs => .list (trees vs)
  | .record fs => .record (memberTrees fs)

def trees : List Json → List Tree
  | [] => []
  | v :: vs => v.tree :: trees vs

def memberTrees : List (String × Json) → List (List Piece × Tree)
  | [] => []
  | (k, v) :: fs => (Piece.ofString k, v.tree) :: memberTrees fs

end

/-! ### What is written -/

mutual

/-- What is written stands before what follows it. -/
lemma length_le_printOnto : ∀ (v : Json) (rest : List Char),
    rest.length ≤ (printOnto v rest).length
  | .null, _ | .bool true, _ | .bool false, _ | .number _, _ | .text _, _ | .list [], _
  | .record [], _ => by
    simp only [printOnto, List.length_cons, List.length_append]
    omega
  | .list (v :: vs), rest => by
    have hv := length_le_printOnto v (printItems vs (']' :: rest))
    have hvs := length_le_printItems vs (']' :: rest)
    simp only [printOnto, List.length_cons] at *
    omega
  | .record ((k, v) :: fs), rest => by
    have hv := length_le_printOnto v (printMembers fs ('}' :: rest))
    have hfs := length_le_printMembers fs ('}' :: rest)
    simp only [printOnto, List.length_cons, List.length_append] at *
    omega

lemma length_le_printItems : ∀ (vs : List Json) (rest : List Char),
    rest.length ≤ (printItems vs rest).length
  | [], _ => Nat.le_refl _
  | v :: vs, rest => by
    have hv := length_le_printOnto v (printItems vs rest)
    have hvs := length_le_printItems vs rest
    rw [printItems, List.length_cons]
    omega

lemma length_le_printMembers : ∀ (fs : List (String × Json)) (rest : List Char),
    rest.length ≤ (printMembers fs rest).length
  | [], _ => Nat.le_refl _
  | (k, v) :: fs, rest => by
    have hv := length_le_printOnto v (printMembers fs rest)
    have hfs := length_le_printMembers fs rest
    simp only [printMembers, List.length_cons, List.length_append]
    omega

end

/-- A value that is written begins with what is neither a blank nor the end of a list. -/
lemma Legible.printOnto_eq_cons {depth : Nat} {v : Json} (h : Legible depth v)
    (rest : List Char) :
    ∃ c cs, printOnto v rest = c :: cs ∧ Tree.isBlank c = false ∧ c ≠ ']' := by
  have hnumeral : ∀ {n c cs}, Number.print n = c :: cs → c = '-' ∨ Decimal.isDigit c = true →
      ∃ c cs, printOnto (.number n) rest = c :: cs ∧ Tree.isBlank c = false ∧ c ≠ ']' := by
    intro n c cs hc hhead
    refine ⟨c, cs ++ rest, by rw [printOnto, hc, List.cons_append],
      Tree.isBlank_of_numeral hhead, ?_⟩
    rintro rfl
    rcases hhead with h | h <;> cases h
  cases h with
  | integer low high =>
    obtain ⟨c, cs, hc, hhead⟩ := exists_cons_printInteger _
    exact hnumeral (n := .integer _) hc hhead
  | minusZero =>
    have hprint : Number.print .minusZero = ['-', '0', '.', '0'] := by decide +kernel
    exact hnumeral hprint (.inl rfl)
  | null => exact ⟨_, _, rfl, by decide, by decide⟩
  | bool b => cases b <;> exact ⟨_, _, rfl, by decide, by decide⟩
  | text s => exact ⟨_, _, rfl, by decide, by decide⟩
  | @list _ vs => cases vs <;> exact ⟨_, _, rfl, by decide, by decide⟩
  | @record _ fs => cases fs <;> exact ⟨_, _, rfl, by decide, by decide⟩

end Json

namespace Tree

/-- The value is read from what is written for it. Two levels of recursion for each character are
enough. -/
def Reads (v : Json) : Prop := ∀ fuel rest, Ends rest →
  2 * (Json.printOnto v rest).length < fuel + 2 * rest.length →
    readValue fuel (Json.printOnto v rest) = some (v.tree, rest)

variable {fuel : Nat} {rest : List Char}

/-- A value inside a list or an object is read with what is left of the recursion. -/
lemma Reads.part {v : Json} {more : List Char} (h : Reads v) (hends : Ends more)
    (hmore : rest.length < more.length)
    (hfuel : 2 * (Json.printOnto v more).length < fuel + 2 * rest.length) :
    ∃ left, fuel = left + 1 ∧ readValue left (Json.printOnto v more) = some (v.tree, more) := by
  have hlength := Json.length_le_printOnto v more
  exact ⟨fuel - 1, by omega, h _ _ hends (by omega)⟩

lemma ends_printItems (vs : List Json) : Ends (Json.printItems vs (']' :: rest)) := by
  cases vs <;> rintro c ⟨rfl⟩ <;> exact .inr (by decide)

lemma ends_printMembers (fs : List (String × Json)) :
    Ends (Json.printMembers fs ('}' :: rest)) := by
  cases fs <;> rintro c ⟨rfl⟩ <;> exact .inr (by decide)

/-- The items of a list are read up to the closing bracket. -/
lemma readItems_printItems {v : Json} {vs : List Json} (h : ∀ w ∈ v :: vs, Reads w)
    (hfuel : 2 * (Json.printOnto v (Json.printItems vs (']' :: rest))).length <
      fuel + 2 * rest.length) :
    readItems fuel (Json.printOnto v (Json.printItems vs (']' :: rest))) =
      some (Json.trees (v :: vs), rest) := by
  -- an item with its comma has two characters at least, and takes one level of recursion
  induction vs generalizing v fuel with
  | nil =>
    obtain ⟨left, rfl, hread⟩ :=
      (h v (List.mem_cons_self ..)).part (ends_printItems []) (Nat.lt_succ_self _) hfuel
    rw [readItems, hread]
    rfl
  | cons w vs ih =>
    have hitems := Json.length_le_printItems (w :: vs) (']' :: rest)
    have hcomma := Json.length_le_printOnto v (Json.printItems (w :: vs) (']' :: rest))
    obtain ⟨left, rfl, hread⟩ :=
      (h v (List.mem_cons_self ..)).part (ends_printItems (w :: vs)) hitems hfuel
    have hnext : (Json.printItems (w :: vs) (']' :: rest)).length =
        (Json.printOnto w (Json.printItems vs (']' :: rest))).length + 1 := rfl
    have hmore : readItems left (Json.printOnto w (Json.printItems vs (']' :: rest))) =
        some (Json.trees (w :: vs), rest) :=
      ih (fun u hu => h u (List.mem_cons_of_mem _ hu)) (by omega)
    rw [readItems, hread]
    change (readItems left _).bind _ = _
    rw [hmore]
    rfl

/-- A name is read with its colon. -/
lemma readMembers_quoted (k : String) (cs : List Char) :
    readMembers (fuel + 1) (Json.quoted k ++ ':' :: cs) = (do
      let (v, cs) ← readValue fuel cs
      match skipBlanks cs with
      | ',' :: cs =>
        let (ms, rest) ← readMembers fuel cs
        return ((Piece.ofString k, v) :: ms, rest)
      | '}' :: rest => return ([(Piece.ofString k, v)], rest)
      | _ => none) := by
  have hquoted : Json.quoted k ++ ':' :: cs =
      '"' :: (k.toList.flatMap Json.escaped ++ '"' :: ':' :: cs) := by
    simp [Json.quoted]
  rw [readMembers, hquoted]
  change (readPieces _).bind _ = _
  rw [readPieces_quoted]
  rfl

/-- The members of an object are read up to the closing brace. -/
lemma readMembers_printMembers {k : String} {v : Json} {fs : List (String × Json)}
    (h : ∀ m ∈ (k, v) :: fs, Reads m.2)
    (hfuel : 2 * (Json.printOnto v (Json.printMembers fs ('}' :: rest))).length <
      fuel + 2 * rest.length) :
    readMembers fuel
        (Json.quoted k ++ ':' :: Json.printOnto v (Json.printMembers fs ('}' :: rest))) =
      some (Json.memberTrees ((k, v) :: fs), rest) := by
  induction fs generalizing k v fuel with
  | nil =>
    obtain ⟨left, rfl, hread⟩ :=
      (h _ (List.mem_cons_self ..)).part (ends_printMembers []) (Nat.lt_succ_self _) hfuel
    rw [readMembers_quoted, hread]
    rfl
  | cons m fs ih =>
    have hmembers := Json.length_le_printMembers (m :: fs) ('}' :: rest)
    have hcomma := Json.length_le_printOnto v (Json.printMembers (m :: fs) ('}' :: rest))
    obtain ⟨left, rfl, hread⟩ :=
      (h _ (List.mem_cons_self ..)).part (ends_printMembers (m :: fs)) hmembers hfuel
    have hnext : (Json.printMembers (m :: fs) ('}' :: rest)).length =
        (Json.quoted m.1).length +
          (Json.printOnto m.2 (Json.printMembers fs ('}' :: rest))).length + 2 := by
      simp only [Json.printMembers, List.length_cons, List.length_append]
      omega
    have hmore : readMembers left (Json.quoted m.1 ++ ':' ::
          Json.printOnto m.2 (Json.printMembers fs ('}' :: rest))) =
        some (Json.memberTrees (m :: fs), rest) :=
      ih (fun u hu => h u (List.mem_cons_of_mem _ hu)) (by omega)
    rw [readMembers_quoted, hread]
    change (readMembers left _).bind _ = _
    rw [hmore]
    rfl

/-- Whatever begins as a numeral is read as one. -/
lemma readValue_numeral {c : Char} (hc : c = '-' ∨ Decimal.isDigit c = true) (cs : List Char) :
    readValue (fuel + 1) (c :: cs) =
      (readNumeral (c :: cs)).map fun (n, rest) => (.number n, rest) := by
  rw [readValue, skipBlanks_cons (isBlank_of_numeral hc)]
  split
  case h_1 h => cases h
  case h_8 => rfl
  -- the other values begin with a letter, a quote or a bracket
  all_goals
    next h =>
      obtain ⟨rfl, -⟩ := List.cons.inj h
      rcases hc with h | h <;> cases h

/-- A list is not empty if no bracket stands where its first item should. -/
lemma readValue_list {v : Json} {more : List Char} {c : Char} {cs : List Char}
    (hv : Json.printOnto v more = c :: cs) (hblank : isBlank c = false) (hc : c ≠ ']') :
    readValue (fuel + 1) ('[' :: Json.printOnto v more) =
      (readItems fuel (Json.printOnto v more)).map fun (vs, rest) => (.list vs, rest) := by
  have hopen : skipBlanks ('[' :: c :: cs) = '[' :: c :: cs := skipBlanks_cons (by decide) _
  rw [readValue, hv]
  simp only [hopen, skipBlanks_cons hblank]
  split
  · next h => exact absurd (List.cons.inj h).1 hc
  · rfl

/-- To be read, a value needs one level of recursion at least. -/
lemma reads_of_succ {v : Json}
    (h : ∀ left rest, Ends rest →
      2 * (Json.printOnto v rest).length < left + 1 + 2 * rest.length →
        readValue (left + 1) (Json.printOnto v rest) = some (v.tree, rest)) : Reads v := by
  intro fuel rest hends hfuel
  have hlength := Json.length_le_printOnto v rest
  obtain ⟨left, rfl⟩ := Nat.exists_eq_add_one_of_ne_zero (n := fuel) (by omega)
  exact h left rest hends hfuel

/-- A number is read if its numeral is. -/
lemma reads_numeral {n : Number} {c : Char} {cs : List Char}
    (hc : Json.Number.print n = c :: cs) (hhead : c = '-' ∨ Decimal.isDigit c = true)
    {x : Numeral} (hx : (Json.number n).tree = .number x)
    (hread : ∀ rest, Ends rest → readNumeral (Json.Number.print n ++ rest) = some (x, rest)) :
    Reads (.number n) := by
  refine reads_of_succ fun left rest hends _ => ?_
  rw [Json.printOnto, hc, List.cons_append, readValue_numeral hhead, ← List.cons_append, ← hc,
    hread rest hends, hx]
  rfl

end Tree

/-- **Whatever holds no floats but minus zero is read from what is written for it**, up to its
end. -/
lemma Json.Legible.reads {depth : Nat} {v : Json} (h : Json.Legible depth v) : Tree.Reads v := by
  induction h with
  | null => exact Tree.reads_of_succ fun left rest _ _ => rfl
  | bool b => cases b <;> exact Tree.reads_of_succ fun left rest _ _ => rfl
  | @integer _ i =>
    obtain ⟨c, cs, hc, hhead⟩ := exists_cons_printInteger i
    exact Tree.reads_numeral (n := .integer i) hc hhead rfl fun _ hends =>
      Tree.readNumeral_printInteger i hends
  | minusZero =>
    have hprint : Number.print .minusZero = ['-', '0', '.', '0'] := by decide +kernel
    exact Tree.reads_numeral hprint (.inl rfl) rfl fun _ hends => Tree.readNumeral_minusZero hends
  | text s =>
    refine Tree.reads_of_succ fun left rest _ _ => ?_
    have hquoted : printOnto (.text s) rest =
        '"' :: (s.toList.flatMap escaped ++ '"' :: rest) := by
      simp [printOnto, quoted]
    rw [hquoted]
    change (Tree.readPieces _).map _ = _
    rw [Tree.readPieces_quoted]
    rfl
  | @list _ vs items ih =>
    refine Tree.reads_of_succ fun left rest _ hfuel => ?_
    cases vs with
    | nil => rfl
    | cons v vs =>
      obtain ⟨c, cs, hhead, hblank, hc⟩ :=
        (items v (List.mem_cons_self ..)).printOnto_eq_cons (printItems vs (']' :: rest))
      rw [printOnto, List.length_cons] at hfuel
      rw [printOnto, Tree.readValue_list hhead hblank hc,
        Tree.readItems_printItems ih (by omega)]
      rfl
  | @record _ fs _ ih =>
    refine Tree.reads_of_succ fun left rest _ hfuel => ?_
    obtain _ | ⟨⟨k, v⟩, fs⟩ := fs
    · rfl
    · simp only [printOnto, List.length_cons, List.length_append] at hfuel
      change (Tree.readMembers left
        (quoted k ++ ':' :: printOnto v (printMembers fs ('}' :: rest)))).map _ = _
      rw [Tree.readMembers_printMembers ih (by omega)]
      rfl

/-- The text of a value has the tree of the value. -/
lemma Json.Legible.ofText?_render {depth : Nat} {v : Json} (h : Json.Legible depth v) :
    Tree.ofText? v.render = some v.tree := by
  have hread := h.reads (2 * v.print.length + 2) [] nofun (by simp [print])
  rw [Tree.ofText?, render, String.toList_ofList, Tree.ofChars?, print]
  rw [print] at hread
  rw [hread]
  rfl

/-! ### What is meant -/

namespace Tree

variable {depth : Nat}

lemma items?_trees {vs : List Json} (h : ∀ v ∈ vs, value? depth v.tree = some v) :
    items? depth (Json.trees vs) = some vs := by
  induction vs with
  | nil => rfl
  | cons v vs ih =>
    obtain ⟨hv, hvs⟩ := List.forall_mem_cons.mp h
    simp [Json.trees, items?, hv, ih hvs]

lemma members?_memberTrees {fs : List (String × Json)}
    (h : ∀ m ∈ fs, value? depth m.2.tree = some m.2) :
    members? depth (Json.memberTrees fs) = some fs := by
  induction fs with
  | nil => rfl
  | cons m fs ih =>
    obtain ⟨hm, hfs⟩ := List.forall_mem_cons.mp h
    simp [Json.memberTrees, members?, Piece.string?_ofString, hm, ih hfs]

end Tree

/-- **The tree of a value means the value.** -/
lemma Json.Legible.value?_tree {depth : Nat} {v : Json} (h : Json.Legible depth v)
    (ho : Ordered v) :
    Tree.value? depth v.tree = some v := by
  induction h with
  | null => simp [tree, Tree.value?]
  | bool b => simp [tree, Tree.value?]
  | integer low high => simp [tree, Tree.value?, Numeral.number?_ofInt low high]
  | minusZero => simp [Number.minusZero, tree, Tree.value?, Numeral.number?_minusZero]
  | text s => simp [tree, Tree.value?, Piece.string?_ofString]
  | list items ih =>
    obtain _ | _ | _ | _ | ordered | _ := ho
    have hitems := Tree.items?_trees fun v hv => ih v hv (ordered v hv)
    rw [tree, Tree.value?, hitems, Option.map_some]
  | record members ih =>
    obtain ⟨sorted, ordered⟩ := ho.of_record
    have hmembers := Tree.members?_memberTrees fun m hm => ih m hm (ordered m hm)
    rw [tree, Tree.value?, hmembers, Option.map_some, sorted.ofList_eq]

end ShopTraffic
