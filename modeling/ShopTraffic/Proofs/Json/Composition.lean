import Mathlib.Data.List.Forall2
import ShopTraffic.Proofs.Json.Steps

/-!
The parts of a JSON text. What is read of a value is the same whatever follows it, if what follows
cannot be a part of it. So the texts of values can be taken out of the text of an object and put
together again, in another order or with others.
-/

namespace ShopTraffic

namespace Tree

variable {fuel : Nat} {cs r rest a b p : List Char} {t : Tree} {vs : List Tree}
  {ms : List (List Piece × Tree)} {ps : List (List Char × List Char)}

/-- The characters are those of the value, whatever follows them. Two levels of recursion for each
character are enough. -/
def Spans (a : List Char) (t : Tree) : Prop :=
  ∀ fuel rest, Ends rest → 2 * a.length < fuel → readValue fuel (a ++ rest) = some (t, rest)

/-- The characters are those of the items of a list, its closing bracket included. -/
def SpansItems (a : List Char) (vs : List Tree) : Prop :=
  ∀ fuel rest, 2 * a.length < fuel → readItems fuel (a ++ rest) = some (vs, rest)

/-- The characters are those of the members of an object, its closing brace included. -/
def SpansMembers (a : List Char) (ms : List (List Piece × Tree)) : Prop :=
  ∀ fuel rest, 2 * a.length < fuel → readMembers fuel (a ++ rest) = some (ms, rest)

/-- The characters hold the value and nothing else but blanks. -/
def Holds (p : List Char) (t : Tree) : Prop := ∃ a b, p = a ++ b ∧ Spans a t ∧ Blank b

def HoldsMember (p : List Char × List Char) (m : List Piece × Tree) : Prop :=
  Holds p.1 (.text m.1) ∧ Holds p.2 m.2

def memberText (p : List Char × List Char) : List Char := p.1 ++ ':' :: p.2

def membersText (ps : List (List Char × List Char)) : List Char :=
  [','].intercalate (ps.map memberText)

/-- A value is read up to what separates it from the next. -/
lemma Holds.read (h : Holds p t) {c : Char} (hc : c ∈ separators) (hfuel : 2 * p.length < fuel)
    (cs : List Char) :
    ∃ cs₁, readValue fuel (p ++ c :: cs) = some (t, cs₁) ∧ skipBlanks cs₁ = c :: cs := by
  have hblank : ∀ c ∈ separators, isBlank c = false := by simp [separators, isBlank]
  have hends : Ends (c :: cs) := by
    rintro d ⟨rfl⟩
    exact .inr hc
  obtain ⟨a, b, rfl, ha, hb⟩ := h
  refine ⟨b ++ c :: cs, ?_, by rw [skipBlanks_append hb, skipBlanks_cons (hblank c hc)]⟩
  rw [List.length_append] at hfuel
  rw [List.append_assoc]
  exact ha _ _ (hb.ends hends) (by omega)

/-- The text of a value, together with the blanks behind it. -/
lemma holds_of_spans {a cs₁ : List Char} {c : Char} {cs : List Char} (ha : Spans a t)
    (h : skipBlanks cs₁ = c :: cs) : ∃ p, a ++ cs₁ = p ++ c :: cs ∧ Holds p t := by
  obtain ⟨b, hb, hcs⟩ := exists_blank cs₁
  exact ⟨a ++ b, by rw [List.append_assoc, ← h, ← hcs], a, b, rfl, ha, hb⟩

lemma Holds.last_item (h : Holds p t) : SpansItems (p ++ [']']) [t] := by
  intro fuel rest hfuel
  obtain ⟨left, rfl⟩ := Nat.exists_eq_add_one_of_ne_zero (n := fuel) (by omega)
  rw [List.length_append, List.length_singleton] at hfuel
  have hleft : 2 * p.length < left := by omega
  obtain ⟨cs₁, hread, hclose⟩ := h.read (c := ']') (by decide) hleft rest
  rw [List.append_assoc]
  exact readItems_eq_some.mpr ⟨t, cs₁, hread, .inr ⟨hclose, rfl⟩⟩

lemma Holds.item (h : Holds p t) (ha : SpansItems a vs) : SpansItems (p ++ ',' :: a) (t :: vs) := by
  intro fuel rest hfuel
  obtain ⟨left, rfl⟩ := Nat.exists_eq_add_one_of_ne_zero (n := fuel) (by omega)
  rw [List.length_append, List.length_cons] at hfuel
  have hleft : 2 * p.length < left := by omega
  obtain ⟨cs₁, hread, hcomma⟩ := h.read (c := ',') (by decide) hleft (a ++ rest)
  rw [List.append_assoc, List.cons_append]
  exact readItems_eq_some.mpr
    ⟨t, cs₁, hread, .inl ⟨a ++ rest, vs, hcomma, ha left rest (by omega), rfl⟩⟩

/-- A name and a value are read with what stands behind them. -/
lemma HoldsMember.read {p : List Char × List Char} {m : List Piece × Tree} (h : HoldsMember p m)
    {c : Char} (hc : c ∈ separators) (hfuel : 2 * (memberText p).length < fuel) (cs : List Char) :
    ∃ cs₁ cs₂ cs₃, readValue 1 (memberText p ++ c :: cs) = some (.text m.1, cs₁) ∧
      skipBlanks cs₁ = ':' :: cs₂ ∧ readValue fuel cs₂ = some (m.2, cs₃) ∧
      skipBlanks cs₃ = c :: cs := by
  obtain ⟨hname, hvalue⟩ := h
  have hleft : 2 * p.2.length < fuel := by
    rw [memberText, List.length_append, List.length_cons] at hfuel
    omega
  obtain ⟨cs₁, hread, hcolon⟩ := hname.read (c := ':') (by decide) (Nat.lt_succ_self _)
    (p.2 ++ c :: cs)
  obtain ⟨cs₃, hread', hnext⟩ := hvalue.read hc hleft cs
  refine ⟨cs₁, p.2 ++ c :: cs, cs₃, ?_, hcolon, hread', hnext⟩
  rw [memberText, List.append_assoc, List.cons_append]
  exact readValue_text.mpr (readValue_text.mp hread)

lemma HoldsMember.last {p : List Char × List Char} {m : List Piece × Tree} (h : HoldsMember p m) :
    SpansMembers (memberText p ++ ['}']) [m] := by
  intro fuel rest hfuel
  obtain ⟨left, rfl⟩ := Nat.exists_eq_add_one_of_ne_zero (n := fuel) (by omega)
  rw [List.length_append, List.length_singleton] at hfuel
  have hleft : 2 * (memberText p).length < left := by omega
  obtain ⟨cs₁, cs₂, cs₃, hname, hcolon, hvalue, hclose⟩ := h.read (c := '}') (by decide) hleft rest
  rw [List.append_assoc]
  exact readMembers_eq_some.mpr
    ⟨m.1, m.2, cs₁, cs₂, cs₃, hname, hcolon, hvalue, .inr ⟨hclose, rfl⟩⟩

lemma HoldsMember.next {p : List Char × List Char} {m : List Piece × Tree} (h : HoldsMember p m)
    (ha : SpansMembers a ms) : SpansMembers (memberText p ++ ',' :: a) (m :: ms) := by
  intro fuel rest hfuel
  obtain ⟨left, rfl⟩ := Nat.exists_eq_add_one_of_ne_zero (n := fuel) (by omega)
  rw [List.length_append, List.length_cons] at hfuel
  have hleft : 2 * (memberText p).length < left := by omega
  obtain ⟨cs₁, cs₂, cs₃, hname, hcolon, hvalue, hcomma⟩ :=
    h.read (c := ',') (by decide) hleft (a ++ rest)
  rw [List.append_assoc, List.cons_append]
  exact readMembers_eq_some.mpr ⟨m.1, m.2, cs₁, cs₂, cs₃, hname, hcolon, hvalue,
    .inl ⟨a ++ rest, ms, hcomma, ha left rest (by omega), rfl⟩⟩

/-- **The texts of members, put together, are the text of the members.** -/
lemma spansMembers_membersText (h : List.Forall₂ HoldsMember ps ms) (hne : ps ≠ []) :
    SpansMembers (membersText ps ++ ['}']) ms := by
  induction h with
  | nil => exact absurd rfl hne
  | @cons p m ps ms hp h ih =>
    cases h with
    | nil => simpa [membersText] using hp.last
    | cons hq h =>
      simpa [membersText, List.intercalate_cons_cons] using hp.next (ih (List.cons_ne_nil _ _))

/-- What is behind a bracket that is closed at once. -/
lemma exists_closed {cs : List Char} {c : Char} (hc : isBlank c = false)
    (h : skipBlanks cs = c :: r) :
    ∃ a, cs = a ++ r ∧ ∀ rest, skipBlanks (a ++ rest) = c :: rest := by
  obtain ⟨b, hb, hcs⟩ := exists_blank cs
  refine ⟨b ++ [c], by simpa [h] using hcs, fun rest => ?_⟩
  rw [List.append_assoc, skipBlanks_append hb]
  exact skipBlanks_cons hc rest

/-- One step uses up the text of a value, if what it hands on does. -/
lemma Step.exists_span (h : Step fuel cs t r)
    (hitems : ∀ {cs vs r}, readItems fuel cs = some (vs, r) → ∃ a, cs = a ++ r ∧ SpansItems a vs)
    (hmembers : ∀ {cs ms r}, readMembers fuel cs = some (ms, r) →
      ∃ a, cs = a ++ r ∧ SpansMembers a ms) :
    ∃ c a, cs = c :: a ++ r ∧ isBlank c = false ∧ ∀ left rest, Ends rest →
      2 * a.length + 1 < left → Step left (c :: a ++ rest) t rest := by
  cases h with
  | word hw r =>
    have hw' := hw
    simp only [words, List.mem_cons, List.not_mem_nil, or_false, Prod.mk.injEq] at hw'
    rcases hw' with ⟨rfl, rfl⟩ | ⟨rfl, rfl⟩ | ⟨rfl, rfl⟩
    all_goals exact ⟨_, _, rfl, by decide, fun left rest _ _ => .word hw rest⟩
  | text h =>
    obtain ⟨a, rfl, hread⟩ := exists_pieces h
    exact ⟨'"', a, rfl, by decide, fun left rest _ _ => .text (hread rest)⟩
  | noItems h =>
    obtain ⟨a, rfl, hread⟩ := exists_closed (by decide) h
    exact ⟨'[', a, rfl, by decide, fun left rest _ _ => .noItems (hread rest)⟩
  | items h =>
    obtain ⟨a, rfl, hread⟩ := hitems h
    exact ⟨'[', a, rfl, by decide, fun left rest _ hleft => .items (hread left rest (by omega))⟩
  | noMembers h =>
    obtain ⟨a, rfl, hread⟩ := exists_closed (by decide) h
    exact ⟨'{', a, rfl, by decide, fun left rest _ _ => .noMembers (hread rest)⟩
  | members h =>
    obtain ⟨a, rfl, hread⟩ := hmembers h
    exact ⟨'{', a, rfl, by decide, fun left rest _ hleft => .members (hread left rest (by omega))⟩
  | number h =>
    obtain ⟨c, a, rfl, hhead, hread⟩ := exists_numeral h
    exact ⟨c, a, rfl, isBlank_of_numeral hhead, fun left rest hends _ => .number (hread rest hends)⟩

/-- The text of a value ends where what is read ends, if the texts inside it do. -/
lemma exists_span_succ (h : readValue (fuel + 1) cs = some (t, r))
    (hitems : ∀ {cs vs r}, readItems fuel cs = some (vs, r) → ∃ a, cs = a ++ r ∧ SpansItems a vs)
    (hmembers : ∀ {cs ms r}, readMembers fuel cs = some (ms, r) →
      ∃ a, cs = a ++ r ∧ SpansMembers a ms) :
    ∃ a, cs = a ++ r ∧ Spans a t := by
  obtain ⟨b, hb, hcs⟩ := exists_blank cs
  obtain ⟨c, a, hstep, hc, hspan⟩ := (readValue_eq_some.mp h).exists_span hitems hmembers
  refine ⟨b ++ c :: a, by rw [hcs, hstep, List.append_assoc], fun left rest hends hleft => ?_⟩
  obtain ⟨left, rfl⟩ := Nat.exists_eq_add_one_of_ne_zero (n := left) (by omega)
  simp only [List.length_append, List.length_cons] at hleft
  rw [List.append_assoc, readValue_eq_some, skipBlanks_append hb, List.cons_append,
    skipBlanks_cons hc]
  exact hspan left rest hends (by omega)

/-- A name is no deeper than its characters. -/
lemma exists_span_name {ps : List Piece} (h : readValue 1 cs = some (.text ps, r)) :
    ∃ a, cs = a ++ r ∧ Spans a (.text ps) :=
  exists_span_succ h (fun hvs => by rw [readItems] at hvs; cases hvs)
    fun hms => by rw [readMembers] at hms; cases hms

mutual

/-- **What is read of a value is the same whatever follows it.** -/
lemma exists_span : ∀ {fuel : Nat} {cs : List Char} {t : Tree} {r : List Char},
    readValue fuel cs = some (t, r) → ∃ a, cs = a ++ r ∧ Spans a t
  | 0, _, _, _, h => by rw [readValue] at h; cases h
  | fuel + 1, cs, t, r, h =>
    exists_span_succ h exists_items fun hms => by
      obtain ⟨ps, rfl, hne, hps⟩ := exists_members hms
      exact ⟨_, rfl, spansMembers_membersText hps hne⟩

lemma exists_items : ∀ {fuel : Nat} {cs : List Char} {vs : List Tree} {r : List Char},
    readItems fuel cs = some (vs, r) → ∃ a, cs = a ++ r ∧ SpansItems a vs
  | 0, _, _, _, h => by rw [readItems] at h; cases h
  | fuel + 1, cs, vs, r, h => by
    obtain ⟨v, cs₁, hv, hnext⟩ := readItems_eq_some.mp h
    obtain ⟨a, rfl, ha⟩ := exists_span hv
    rcases hnext with ⟨cs₂, vs', hcomma, hvs, rfl⟩ | ⟨hclose, rfl⟩
    · obtain ⟨p, hp, hholds⟩ := holds_of_spans ha hcomma
      obtain ⟨a', rfl, ha'⟩ := exists_items hvs
      exact ⟨p ++ ',' :: a', by rw [hp, List.append_assoc, List.cons_append], hholds.item ha'⟩
    · obtain ⟨p, hp, hholds⟩ := holds_of_spans ha hclose
      exact ⟨p ++ [']'], by rw [hp, List.append_assoc, List.singleton_append], hholds.last_item⟩

/-- The members of an object are those of its texts. -/
lemma exists_members : ∀ {fuel : Nat} {cs : List Char} {ms : List (List Piece × Tree)}
    {r : List Char}, readMembers fuel cs = some (ms, r) →
      ∃ ps, cs = membersText ps ++ ['}'] ++ r ∧ ps ≠ [] ∧ List.Forall₂ HoldsMember ps ms
  | 0, _, _, _, h => by rw [readMembers] at h; cases h
  | fuel + 1, cs, ms, r, h => by
    obtain ⟨name, v, cs₁, cs₂, cs₃, hname, hcolon, hv, hnext⟩ := readMembers_eq_some.mp h
    obtain ⟨a, rfl, ha⟩ := exists_span_name hname
    obtain ⟨k, hk, hkname⟩ := holds_of_spans ha hcolon
    obtain ⟨a', rfl, ha'⟩ := exists_span hv
    rcases hnext with ⟨cs₄, ms', hcomma, hms, rfl⟩ | ⟨hclose, rfl⟩
    · obtain ⟨p, hp, hvalue⟩ := holds_of_spans ha' hcomma
      obtain ⟨ps, rfl, hne, hps⟩ := exists_members hms
      obtain ⟨q, ps, rfl⟩ := List.exists_cons_of_ne_nil hne
      refine ⟨(k, p) :: q :: ps, ?_, List.cons_ne_nil _ _, .cons ⟨hkname, hvalue⟩ hps⟩
      rw [hk, hp]
      simp [membersText, memberText, List.intercalate_cons_cons]
    · obtain ⟨p, hp, hvalue⟩ := holds_of_spans ha' hclose
      refine ⟨[(k, p)], ?_, List.cons_ne_nil _ _, .cons ⟨hkname, hvalue⟩ .nil⟩
      rw [hk, hp]
      simp [membersText, memberText]

end

/-! ### Whole texts -/

/-- A text holds one value, which is the same wherever the text stands. -/
lemma ofChars?_eq_some : ofChars? p = some t ↔ Holds p t := by
  rw [ofChars?]
  constructor
  · intro h
    split at h
    · next t' r hread =>
      split_ifs at h with hrest
      obtain rfl := Option.some.inj h
      obtain ⟨a, rfl, ha⟩ := exists_span hread
      obtain ⟨b, hb, hr⟩ := exists_blank r
      rw [List.isEmpty_iff.mp hrest, List.append_nil] at hr
      exact ⟨a, r, rfl, ha, hr ▸ hb⟩
    · cases h
  · rintro ⟨a, b, rfl, ha, hb⟩
    have hends : Ends b := fun c hc => .inl (hb c (List.mem_of_mem_head? hc))
    rw [ha _ b hends (by rw [List.length_append]; omega)]
    simp [hb.skipBlanks]

def objectText (ps : List (String × String)) : String :=
  "\x7b" ++ ",".intercalate (ps.map fun p => p.1 ++ ":" ++ p.2) ++ "\x7d"

def Spells (p : String × String) (m : List Piece × Tree) : Prop :=
  ofText? p.1 = some (.text m.1) ∧ ofText? p.2 = some m.2

section Object

variable {ps : List (String × String)}

lemma toList_objectText (ps : List (String × String)) : (objectText ps).toList =
    '{' :: (membersText (ps.map fun p => (p.1.toList, p.2.toList)) ++ ['}']) := by
  simp [objectText, membersText, memberText, String.toList_intercalate, Function.comp_def]

lemma Spells.holdsMember {p : String × String} {m : List Piece × Tree} :
    Spells p m ↔ HoldsMember (p.1.toList, p.2.toList) m :=
  and_congr ofChars?_eq_some ofChars?_eq_some

lemma SpansMembers.record (h : SpansMembers a ms) : Spans ('{' :: a) (.record ms) := by
  intro fuel rest _ hfuel
  obtain ⟨left, rfl⟩ := Nat.exists_eq_add_one_of_ne_zero (n := fuel) (by omega)
  rw [List.length_cons] at hfuel
  rw [readValue_eq_some, List.cons_append, skipBlanks_cons (by decide)]
  exact .members (h left rest (by omega))

/-- **The text of an object is put together** from the texts of its names and values. -/
lemma ofText?_objectText (h : List.Forall₂ Spells ps ms) :
    ofText? (objectText ps) = some (.record ms) := by
  cases h with
  | nil => rfl
  | @cons p m ps ms hp h =>
    have hparts : List.Forall₂ HoldsMember
        ((p :: ps).map fun p => (p.1.toList, p.2.toList)) (m :: ms) := by
      rw [List.forall₂_map_left_iff]
      exact (List.Forall₂.cons hp h).imp fun p m h => Spells.holdsMember.mp h
    have hspan := (spansMembers_membersText hparts (by simp)).record
    rw [ofText?, ofChars?_eq_some, toList_objectText]
    exact ⟨_, [], (List.append_nil _).symm, hspan, fun c hc => absurd hc List.not_mem_nil⟩

/-- **And it is taken apart** into such texts, with nothing but blanks around it. -/
lemma exists_objectText {s : String} (h : ofText? s = some (.record ms)) (hne : ms ≠ []) :
    ∃ before ps behind, s = before ++ objectText ps ++ behind ∧ Blank before.toList ∧
      Blank behind.toList ∧ List.Forall₂ Spells ps ms := by
  rw [ofText?, ofChars?] at h
  split at h
  · next t r hread =>
    split_ifs at h with hrest
    obtain rfl := Option.some.inj h
    obtain ⟨b, hb, hs⟩ := exists_blank s.toList
    obtain ⟨b', hb', hr⟩ := exists_blank r
    rw [List.isEmpty_iff.mp hrest, List.append_nil] at hr
    have hstep := readValue_eq_some.mp hread
    generalize skipBlanks s.toList = x at hs hstep
    cases hstep with
    | word hw => simp [words] at hw
    | noMembers => exact absurd rfl hne
    | members hms =>
      obtain ⟨qs, rfl, -, hqs⟩ := exists_members hms
      have hback : (qs.map fun q => (String.ofList q.1, String.ofList q.2)).map
          (fun p => (p.1.toList, p.2.toList)) = qs := by simp [Function.comp_def]
      refine ⟨String.ofList b, qs.map fun q => (String.ofList q.1, String.ofList q.2),
        String.ofList r, ?_, by simpa using hb, by simpa [hr] using hb', ?_⟩
      · rw [← String.toList_inj]
        simp [hs, toList_objectText, hback]
      · rw [List.forall₂_map_left_iff]
        exact hqs.imp fun q m h => Spells.holdsMember.mpr (by simpa using h)
  · cases h

end Object

end Tree

end ShopTraffic
