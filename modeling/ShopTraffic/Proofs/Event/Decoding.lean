import Mathlib.Algebra.Group.Int.Defs
import ShopTraffic.Proofs.Event.Parts
import ShopTraffic.Proofs.Json.Composition

/-!
What is accepted as an event. The members of an object may stand in any order, and members that are
not known are skipped; all that is known must be there exactly once and mean something. So it is
with the attributes, but there members that are not known are kept, in the order of their names.

A text of members is made of the texts of the members, so that what is said of the members is said
of the texts.
-/

namespace ShopTraffic

namespace Tree

variable {t : Tree} {ms ms' : Members} {e : Event} {p : EventParts}

/-! ### Other members, and another order -/

def eventNames : List String :=
  ["event_id", "event_type", "event_ts", "user_id", "session_id", "attributes"]

/-- The member has a name that the event does not know. A name that is no text is no name. -/
def Foreign (m : List Piece × Tree) : Prop :=
  ∃ name, Piece.string? m.1 = some name ∧ name ∉ eventNames

def FurtherApart (as : Members) : Prop :=
  ((as.filterMap fun m => Piece.string? m.1).filter fun name => !Event.isReserved name).Nodup

/-- The members of two objects are the same but for their order, the order of the attributes, and
members that are foreign to an event. -/
inductive Rearranged : Members → Members → Prop
  | refl (ms : Members) : Rearranged ms ms
  | members {ms ms' : Members} (h : ms.Perm ms') : Rearranged ms ms'
  | attributes {name : List Piece} {as as' : Members} (ms : Members)
    (hname : Piece.string? name = some "attributes") (hapart : FurtherApart as)
    (h : as.Perm as') : Rearranged ((name, .record as) :: ms) ((name, .record as') :: ms)
  | foreign {m : List Piece × Tree} (ms : Members) (hm : Foreign m) : Rearranged ms (m :: ms)
  | symm {ms ms' : Members} (h : Rearranged ms ms') : Rearranged ms' ms
  | trans {ms ms' ms'' : Members} (h : Rearranged ms ms') (h' : Rearranged ms' ms'') :
    Rearranged ms ms''

variable {ns ns' : List (String × Tree)} {as as' : Members}

lemma EventParts.Sole.congr (h : p.Sole ns)
    (hs : ∀ name ∈ eventNames, sole? name ns' = sole? name ns) : p.Sole ns' where
  id := (hs _ (by decide)).trans h.id
  action := (hs _ (by decide)).trans h.action
  time := (hs _ (by decide)).trans h.time
  user := (hs _ (by decide)).trans h.user
  session := (hs _ (by decide)).trans h.session
  attributes := (hs _ (by decide)).trans h.attributes

lemma event?_perm (h : ms.Perm ms') (he : (record ms).event? = some e) :
    (record ms').event? = some e := by
  obtain ⟨p, ns, hns, hsole, hdescribe⟩ := event?_record.mp he
  obtain ⟨ns', hns', hperm⟩ := mapM_perm h hns
  exact event?_record.mpr ⟨p, ns', hns', hsole.congr fun name _ => sole?_perm hperm name, hdescribe⟩

/-- The names of the further attributes are there as they are read. -/
lemma names_further? {fs : List (String × Json)} (hns : named? as = some ns)
    (hfs : further? ns = some fs) :
    fs.map (·.1) = (as.filterMap fun m => Piece.string? m.1).filter
      fun name => !Event.isReserved name := by
  induction as generalizing ns fs with
  | nil =>
    obtain rfl := Option.some.inj hns
    obtain rfl := Option.some.inj hfs
    rfl
  | cons m as ih =>
    obtain ⟨name, ns', hname, hns', rfl⟩ := named?_cons.mp hns
    simp only [List.filterMap_cons, hname, List.filter_cons]
    rw [further?, List.filter_cons] at hfs
    split_ifs at hfs ⊢ with hkept
    · obtain ⟨f, fs', hf, hfs', rfl⟩ := mapM_cons_eq_some.mp hfs
      obtain ⟨v, -, hv⟩ := Option.bind_eq_some_iff.mp hf
      rw [List.map_cons, ih hns' hfs', ← Option.some.inj hv]
    · exact ih hns' hfs

lemma Describes.perm (h : Describes ns e) (hp : ns.Perm ns') (hns : named? as = some ns)
    (hapart : FurtherApart as) : Describes ns' e where
  state := by
    obtain ⟨t, ht, hst⟩ := h.state
    exact ⟨t, (sole?_perm hp _).trans ht, hst⟩
  previous := by
    obtain ⟨t, ht, hst⟩ := h.previous
    exact ⟨t, (sole?_perm hp _).trans ht, hst⟩
  further := by
    obtain ⟨fs, hfs, hextra⟩ := h.further
    obtain ⟨fs', hfs', hperm⟩ := mapM_perm (hp.filter _) hfs
    refine ⟨fs', hfs', ?_⟩
    rw [hextra]
    refine Fields.ofList_congr_perm hperm ?_
    rw [names_further? hns hfs]
    exact hapart

lemma FurtherApart.perm (h : FurtherApart as) (hp : as.Perm as') : FurtherApart as' :=
  ((hp.filterMap _).filter _).nodup_iff.mp h

/-- Where the attributes are the first member, no other part depends on them. -/
lemma EventParts.Sole.replace {x : Tree} (h : p.Sole (("attributes", x) :: ns)) (y : Tree) :
    p.attributes = x ∧ { p with attributes := y }.Sole (("attributes", y) :: ns) := by
  have hne : ∀ {name} (z : Tree), "attributes" ≠ name →
      sole? name (("attributes", z) :: ns) = sole? name ns := fun z hn => sole?_cons_ne z hn
  obtain ⟨hx, hy⟩ := sole?_replace h.attributes y
  refine ⟨hx, ?_, ?_, ?_, ?_, ?_, hy⟩
  · exact (hne y (by decide)).trans ((hne x (by decide)).symm.trans h.id)
  · exact (hne y (by decide)).trans ((hne x (by decide)).symm.trans h.action)
  · exact (hne y (by decide)).trans ((hne x (by decide)).symm.trans h.time)
  · exact (hne y (by decide)).trans ((hne x (by decide)).symm.trans h.user)
  · exact (hne y (by decide)).trans ((hne x (by decide)).symm.trans h.session)

lemma event?_attributes {name : List Piece} (hname : Piece.string? name = some "attributes")
    (hapart : FurtherApart as) (h : as.Perm as')
    (he : (record ((name, .record as) :: ms)).event? = some e) :
    (record ((name, .record as') :: ms)).event? = some e := by
  obtain ⟨p, ns, hns, hsole, hp⟩ := event?_record.mp he
  obtain ⟨k, ns₀, hk, hns₀, rfl⟩ := named?_cons.mp hns
  obtain rfl : k = "attributes" := Option.some.inj (hk.symm.trans hname)
  obtain ⟨hattributes, hsole'⟩ := hsole.replace (.record as')
  obtain ⟨bs, ms₁, hr, hms₁, hd⟩ := hp.attributes
  obtain rfl : bs = as := Tree.record.inj (hr.symm.trans hattributes)
  obtain ⟨ms₂, hms₂, hperm⟩ := mapM_perm h hms₁
  refine event?_record.mpr ⟨_, _, named?_cons.mpr ⟨_, ns₀, hname, hns₀, rfl⟩, hsole', ?_⟩
  exact ⟨hp.id, hp.action, hp.time, hp.user, hp.session, as', ms₂, rfl, hms₂,
    hd.perm hperm hms₁ hapart⟩

lemma event?_foreign {m : List Piece × Tree} (hm : Foreign m) :
    (record (m :: ms)).event? = (record ms).event? := by
  obtain ⟨name, hname, hforeign⟩ := hm
  have hs : ∀ ns : List (String × Tree), ∀ known ∈ eventNames,
      sole? known ((name, m.2) :: ns) = sole? known ns := fun ns known hknown =>
    sole?_cons_ne m.2 (ne_of_mem_of_not_mem hknown hforeign).symm
  refine Option.ext fun e => ?_
  rw [event?_record, event?_record]
  constructor
  · rintro ⟨p, ns, hns, hsole, hp⟩
    obtain ⟨k, ns₀, hk, hns₀, rfl⟩ := named?_cons.mp hns
    obtain rfl := Option.some.inj (hk.symm.trans hname)
    exact ⟨p, ns₀, hns₀, hsole.congr fun known hknown => (hs ns₀ known hknown).symm, hp⟩
  · rintro ⟨p, ns, hns, hsole, hp⟩
    exact ⟨p, _, named?_cons.mpr ⟨name, ns, hname, hns, rfl⟩, hsole.congr (hs ns), hp⟩

/-- **Neither the order nor foreign members matter**, to what is read or to whether it is. -/
lemma Rearranged.event?_eq (h : Rearranged ms ms') :
    (record ms).event? = (record ms').event? := by
  induction h with
  | refl ms => rfl
  | members h => exact Option.ext fun e => ⟨event?_perm h, event?_perm h.symm⟩
  | attributes ms hname hapart h =>
    exact Option.ext fun e =>
      ⟨event?_attributes hname hapart h, event?_attributes hname (hapart.perm h) h.symm⟩
  | foreign ms hm => exact (event?_foreign hm).symm
  | symm _ ih => exact ih.symm
  | trans _ _ ih ih' => exact ih.trans ih'

/-! ### What is rejected -/

def Has (ms : Members) (name : String) (t : Tree) : Prop :=
  ∃ k, (k, t) ∈ ms ∧ Piece.string? k = some name

/-- The tree spells an integer of 64 bits with a sign, with neither a fraction nor an exponent. -/
def SpellsTime (t : Tree) : Prop :=
  ∃ x i, t = .number x ∧ x.integer? = some i ∧ -2 ^ 63 ≤ i ∧ i < 2 ^ 63

/-- Something that is known is missing, is there more than once or does not mean anything. -/
inductive Flawed (ms : Members) : Prop
  | field {name : String} (hname : name ∈ eventNames) (h : occurrences name ms ≠ 1)
  | move {as : Members} {name : String} (has : Has ms "attributes" (.record as))
    (hname : Event.isReserved name = true) (h : occurrences name as ≠ 1)
  | time {t : Tree} (ht : Has ms "event_ts" t) (h : ¬ SpellsTime t)
  | action {t : Tree} (ht : Has ms "event_type" t) (h : ∀ a : Action, t.tag? ≠ some a.name)
  | state {as : Members} {name : String} {t : Tree} (has : Has ms "attributes" (.record as))
    (hname : Event.isReserved name = true) (ht : Has as name t)
    (h : ∀ s : State, t.tag? ≠ some s.name)

lemma Has.mem_named? {name : String} (h : Has ms name t) (hns : named? ms = some ns) :
    (name, t) ∈ ns := by
  obtain ⟨k, hk, hname⟩ := h
  obtain ⟨m, hm, hread⟩ := mem_mapM hns hk
  obtain ⟨name', hname', hread⟩ := Option.bind_eq_some_iff.mp hread
  obtain rfl := Option.some.inj (hname.symm.trans hname')
  exact Option.some.inj hread ▸ hm

/-- What is there once is what is found. -/
lemma Has.eq_of_sole? {name : String} {u : Tree} (h : Has ms name t) (hns : named? ms = some ns)
    (hu : sole? name ns = some u) : t = u :=
  Tree.eq_of_sole? hu (h.mem_named? hns)

lemma EventParts.Sole.count (h : p.Sole ns) {name : String} (hname : name ∈ eventNames) :
    ns.countP (·.1 = name) = 1 := by
  simp only [eventNames, List.mem_cons, List.not_mem_nil, or_false] at hname
  rcases hname with rfl | rfl | rfl | rfl | rfl | rfl
  · exact count_of_sole? h.id
  · exact count_of_sole? h.action
  · exact count_of_sole? h.time
  · exact count_of_sole? h.user
  · exact count_of_sole? h.session
  · exact count_of_sole? h.attributes

/-- Both places of the move are there, and both are known. -/
lemma Describes.moves (h : Describes ns e) {name : String} (hname : Event.isReserved name = true) :
    ∃ t s, sole? name ns = some t ∧ t.state? = some s := by
  simp only [Event.isReserved, Bool.or_eq_true, decide_eq_true_eq] at hname
  rcases hname with rfl | rfl
  · obtain ⟨t, ht, hs⟩ := h.state
    exact ⟨t, _, ht, hs⟩
  · obtain ⟨t, ht, hs⟩ := h.previous
    exact ⟨t, _, ht, hs⟩

lemma tag?_of_state? {s : State} (h : t.state? = some s) : t.tag? = some s.name := by
  obtain ⟨name, htag, hs⟩ := Option.bind_eq_some_iff.mp h
  have hname := List.find?_some hs
  rw [htag, eq_of_beq hname]

lemma tag?_of_action? {a : Action} (h : t.action? = some a) : t.tag? = some a.name := by
  obtain ⟨name, htag, ha⟩ := Option.bind_eq_some_iff.mp h
  have hname := List.find?_some ha
  rw [htag, eq_of_beq hname]

lemma spellsTime_of_time? {now : Time} (h : t.time? = some now) : SpellsTime t := by
  rw [time?.eq_def] at h
  split at h
  · next x =>
    split at h
    · next i hi =>
      obtain ⟨hspelled, hlow, -⟩ := Numeral.integer?_of_number? hi
      split at h
      · next hlt => exact ⟨x, i, rfl, hspelled, hlow, hlt⟩
      · cases h
    · cases h
  · cases h

/-- **A flaw is enough** for an object to be rejected. -/
lemma Flawed.event?_eq_none (h : Flawed ms) : (record ms).event? = none := by
  refine Option.eq_none_iff_forall_ne_some.mpr fun e he => ?_
  obtain ⟨p, ns, hns, hsole, hp⟩ := event?_record.mp he
  obtain ⟨bs, bns, hr, hbns, hd⟩ := hp.attributes
  have hattributes : ∀ {as}, Has ms "attributes" (.record as) → as = bs := fun has =>
    Tree.record.inj ((has.eq_of_sole? hns hsole.attributes).trans hr)
  cases h with
  | field hname h => exact h ((countP_named? hns _).symm.trans (hsole.count hname))
  | move has hname h =>
    obtain rfl := hattributes has
    obtain ⟨t, -, ht, -⟩ := hd.moves hname
    exact h ((countP_named? hbns _).symm.trans (count_of_sole? ht))
  | time ht h =>
    obtain rfl := ht.eq_of_sole? hns hsole.time
    exact h (spellsTime_of_time? hp.time)
  | action ht h =>
    obtain rfl := ht.eq_of_sole? hns hsole.action
    exact h _ (tag?_of_action? hp.action)
  | state has hname ht h =>
    obtain rfl := hattributes has
    obtain ⟨u, s, hu, hs⟩ := hd.moves hname
    obtain rfl := ht.eq_of_sole? hbns hu
    exact h s (tag?_of_state? hs)

/-! ### What is read can be written -/

/-- All numerals spell integers that a number can be. -/
inductive Whole : Tree → Prop
  | null : Whole .null
  | bool (b : Bool) : Whole (.bool b)
  | number {x : Numeral} {i : Int} (spelled : x.integer? = some i) (low : Json.minInteger ≤ i)
    (high : i ≤ Json.maxInteger) : Whole (.number x)
  | text (ps : List Piece) : Whole (.text ps)
  | list {vs : List Tree} (items : ∀ v ∈ vs, Whole v) : Whole (.list vs)
  | record {ms : Members} (members : ∀ m ∈ ms, Whole m.2) : Whole (.record ms)

lemma mem_items? {depth : Nat} {vs : List Tree} {ws : List Json} (h : items? depth vs = some ws)
    {w : Json} (hw : w ∈ ws) : ∃ v ∈ vs, value? depth v = some w := by
  induction vs generalizing ws with
  | nil =>
    rw [items?] at h
    obtain rfl := Option.some.inj h
    cases hw
  | cons v vs ih =>
    simp only [items?, Option.bind_eq_bind, Option.bind_eq_some_iff] at h
    obtain ⟨w', hv, ws', hvs, h⟩ := h
    obtain rfl := Option.some.inj h
    rcases List.mem_cons.mp hw with rfl | hw
    · exact ⟨v, List.mem_cons_self, hv⟩
    · obtain ⟨u, hu, hread⟩ := ih hvs hw
      exact ⟨u, List.mem_cons_of_mem v hu, hread⟩

lemma mem_members? {depth : Nat} {fs : Fields} (h : members? depth ms = some fs)
    {f : String × Json} (hf : f ∈ fs) : ∃ m ∈ ms, value? depth m.2 = some f.2 := by
  induction ms generalizing fs with
  | nil =>
    rw [members?] at h
    obtain rfl := Option.some.inj h
    cases hf
  | cons m ms ih =>
    simp only [members?, Option.bind_eq_bind, Option.bind_eq_some_iff] at h
    obtain ⟨k, hk, v, hv, fs', hms, h⟩ := h
    obtain rfl := Option.some.inj h
    rcases List.mem_cons.mp hf with rfl | hf
    · exact ⟨m, List.mem_cons_self, hv⟩
    · obtain ⟨m', hm', hread⟩ := ih hms hf
      exact ⟨m', List.mem_cons_of_mem m hm', hread⟩

/-- What whole numerals mean can be written and read again. -/
lemma Whole.value? {depth : Nat} {v : Json} (h : t.Whole) (hv : Tree.value? depth t = some v) :
    v.Legible depth ∧ v.Ordered := by
  induction h generalizing depth v with
  | null =>
    rw [Tree.value?] at hv
    exact Option.some.inj hv ▸ ⟨.null, .null⟩
  | bool b =>
    rw [Tree.value?] at hv
    exact Option.some.inj hv ▸ ⟨.bool b, .bool b⟩
  | number spelled low high =>
    rw [Tree.value?] at hv
    rcases Numeral.number?_of_integer? spelled low high with hx | hx <;> rw [hx] at hv
    · exact Option.some.inj hv ▸ ⟨.integer low high, .number _⟩
    · exact Option.some.inj hv ▸ ⟨.minusZero, .number _⟩
  | text ps =>
    rw [Tree.value?] at hv
    obtain ⟨s, -, rfl⟩ := Option.map_eq_some_iff.mp hv
    exact ⟨.text s, .text s⟩
  | list _ ih =>
    cases depth with
    | zero => rw [Tree.value?] at hv; cases hv
    | succ depth =>
      rw [Tree.value?] at hv
      obtain ⟨ws, hws, rfl⟩ := Option.map_eq_some_iff.mp hv
      have hitems : ∀ w ∈ ws, w.Legible depth ∧ w.Ordered := fun w hw => by
        obtain ⟨u, hu, hread⟩ := mem_items? hws hw
        exact ih u hu hread
      exact ⟨.list fun w hw => (hitems w hw).1, .list fun w hw => (hitems w hw).2⟩
  | record _ ih =>
    cases depth with
    | zero => rw [Tree.value?] at hv; cases hv
    | succ depth =>
      rw [Tree.value?] at hv
      obtain ⟨fs, hfs, rfl⟩ := Option.map_eq_some_iff.mp hv
      have hmembers : ∀ f ∈ Fields.ofList fs, f.2.Legible depth ∧ f.2.Ordered := fun f hf => by
        obtain ⟨m, hm, hread⟩ := mem_members? hfs
          ((Fields.mem_insertAll hf).resolve_right List.not_mem_nil)
        exact ih m hm hread
      exact ⟨.record fun f hf => (hmembers f hf).1,
        .record (Fields.sorted_ofList fs) fun f hf => (hmembers f hf).2⟩

/-- Whatever is kept of the attributes was read of one that does not belong to the move. -/
lemma Describes.mem_extra (h : Describes ns e) {f : String × Json} (hf : f ∈ e.extra) :
    Event.isReserved f.1 = false ∧ ∃ m ∈ ns, Tree.value? attributeDepth m.2 = some f.2 := by
  obtain ⟨fs, hfs, hextra⟩ := h.further
  rw [hextra] at hf
  obtain ⟨m, hm, hread⟩ := mem_of_mapM hfs
    ((Fields.mem_insertAll hf).resolve_right List.not_mem_nil)
  obtain ⟨hmem, hkept⟩ := List.mem_filter.mp hm
  obtain ⟨v, hv, hread⟩ := Option.bind_eq_some_iff.mp hread
  obtain rfl := Option.some.inj hread
  exact ⟨by simpa using hkept, m, hmem, hv⟩

/-- The attributes of whole numerals are read as what can be written. -/
lemma Describes.legible (h : Describes ns e) (hns : named? as = some ns)
    (hwhole : ∀ m ∈ as, m.2.Whole) : e.Legible := by
  have hvalue : ∀ f ∈ e.extra, f.2.Legible attributeDepth ∧ f.2.Ordered := fun f hf => by
    obtain ⟨-, m, hm, hread⟩ := h.mem_extra hf
    obtain ⟨m', hm', hname⟩ := mem_of_mapM hns hm
    obtain ⟨k, -, hname⟩ := Option.bind_eq_some_iff.mp hname
    obtain rfl := Option.some.inj hname
    exact (hwhole m' hm').value? hread
  refine ⟨?_, fun f hf => (h.mem_extra hf).1, fun f hf => (hvalue f hf).1,
    fun f hf => (hvalue f hf).2⟩
  obtain ⟨fs, -, hextra⟩ := h.further
  rw [hextra]
  exact Fields.sorted_ofList fs

/-- The attributes are a part of the tree. -/
lemma Whole.attributes (h : t.Whole) (hp : t.eventParts? = some p) : p.attributes.Whole := by
  cases h with
  | @record ms members =>
    obtain ⟨ns, hns, hsole⟩ := eventParts?_record.mp hp
    obtain ⟨m, hm, hname⟩ := mem_of_mapM hns (mem_of_sole? hsole.attributes)
    obtain ⟨k, -, hname⟩ := Option.bind_eq_some_iff.mp hname
    have hvalue : m.2 = p.attributes := congrArg Prod.snd (Option.some.inj hname)
    exact hvalue ▸ members m hm
  | list items =>
    rw [eventParts?.eq_def] at hp
    split at hp
    · next heq =>
      obtain rfl := Tree.list.inj heq
      obtain rfl := Option.some.inj hp
      exact items _ (by simp)
    · next heq => cases heq
    · cases hp
  | _ => cases hp

end Tree

namespace Event

variable {s s' : String} {e : Event} {t : Tree} {ms ms' : Members}

lemma ofWire?_eq (h : Tree.ofText? s = some t) : ofWire? s = t.event? := by
  rw [ofWire?, h, Option.bind_eq_bind, Option.bind_some]

lemma describes_of_ofWire? (h : ofWire? s = some e) :
    ∃ t p as ns, Tree.ofText? s = some t ∧ t.eventParts? = some p ∧ p.attributes = .record as ∧
      Tree.named? as = some ns ∧ Tree.Describes ns e := by
  obtain ⟨t, ht, he⟩ := Option.bind_eq_some_iff.mp h
  obtain ⟨p, hp, hd⟩ := Tree.event?_eq_some.mp he
  obtain ⟨as, ns, hr, hns, hd⟩ := hd.attributes
  exact ⟨t, p, as, ns, ht, hp, hr, hns, hd⟩

/-- What is read can be written, and is read back as it was, if all numerals are whole. -/
lemma legible_of_ofWire? (h : ofWire? s = some e) (ht : Tree.ofText? s = some t)
    (hwhole : t.Whole) : e.Legible := by
  obtain ⟨t', p, as, ns, ht', hp, hr, hns, hd⟩ := describes_of_ofWire? h
  obtain rfl := Option.some.inj (ht.symm.trans ht')
  have hattributes := hwhole.attributes hp
  rw [hr] at hattributes
  cases hattributes with
  | record members => exact hd.legible hns members

/-- **Order and foreign members do not matter, all that is known does.** The text of an object is
made of the texts of its names and values. Two such texts whose members differ in their order, in
the order of the attributes and in foreign members are both rejected or are read as the same event.
A text in which something known is missing, is there twice or does not mean anything is rejected.
What is read keeps no place of the move among the further attributes; if all numerals of the text spell
integers that a number can be, it is read again from what is written for it. -/
theorem decoding_members :
    (∀ (ps : List (String × String)) (ms : Members), List.Forall₂ Tree.Spells ps ms →
      Tree.ofText? (Tree.objectText ps) = some (.record ms)) ∧
    (∀ (s : String) (ms : Members), Tree.ofText? s = some (.record ms) → ms ≠ [] →
      ∃ before ps behind, s = before ++ Tree.objectText ps ++ behind ∧
        Tree.Blank before.toList ∧ Tree.Blank behind.toList ∧ List.Forall₂ Tree.Spells ps ms) ∧
    (∀ (s s' : String) (ms ms' : Members), Tree.ofText? s = some (.record ms) →
      Tree.ofText? s' = some (.record ms') → Tree.Rearranged ms ms' → ofWire? s = ofWire? s') ∧
    (∀ (s : String) (ms : Members), Tree.ofText? s = some (.record ms) → Tree.Flawed ms →
      ofWire? s = none) ∧
    (∀ (s : String) (e : Event), ofWire? s = some e →
      ∀ m ∈ e.extra, m.1 ≠ "state" ∧ m.1 ≠ "prev_state") ∧
    ∀ (s : String) (t : Tree) (e : Event), Tree.ofText? s = some t → t.Whole →
      ofWire? s = some e → ofWire? e.wire = some e := by
  refine ⟨fun ps ms => Tree.ofText?_objectText, fun s ms => Tree.exists_objectText, ?_, ?_, ?_, ?_⟩
  · intro s s' ms ms' hs hs' h
    rw [ofWire?_eq hs, ofWire?_eq hs', h.event?_eq]
  · intro s ms hs h
    rw [ofWire?_eq hs, h.event?_eq_none]
  · intro s e h m hm
    obtain ⟨t, p, as, ns, -, -, -, -, hd⟩ := describes_of_ofWire? h
    simpa [isReserved] using (hd.mem_extra hm).1
  · intro s t e hs hwhole h
    exact (legible_of_ofWire? h hs hwhole).ofWire?_wire

def noteTexts (attributes : List (String × String)) : List (String × String) :=
  [("\"attributes\"", Tree.objectText attributes), ("\"event_id\"", "\"e1\""),
   ("\"event_type\"", "\"back\""), ("\"event_ts\"", " -5"), ("\"user_id\"", "\"u\""),
   ("\"session_id\"", "\"s\"")]

def noteMembers (attributes : Members) : Members :=
  [(Piece.ofString "attributes", .record attributes),
   (Piece.ofString "event_id", .text (Piece.ofString "e1")),
   (Piece.ofString "event_type", .text (Piece.ofString "back")),
   (Piece.ofString "event_ts", .number (.ofInt (-5))),
   (Piece.ofString "user_id", .text (Piece.ofString "u")),
   (Piece.ofString "session_id", .text (Piece.ofString "s"))]

def moveTexts : List (String × String) :=
  [("\"state\"", "\"search\""), ("\"prev_state\"", "\"click\""), ("\"views\"", "-0")]

def moveMembers : Members :=
  [(Piece.ofString "state", .text (Piece.ofString "search")),
   (Piece.ofString "prev_state", .text (Piece.ofString "click")),
   (Piece.ofString "views", .number ⟨true, ['0'], none, none⟩)]

lemma moveTexts_spell : List.Forall₂ Tree.Spells moveTexts moveMembers := by
  simp only [moveTexts, moveMembers, List.forall₂_cons, List.Forall₂.nil, and_true]
  exact ⟨⟨rfl, rfl⟩, ⟨rfl, rfl⟩, rfl, rfl⟩

lemma noteTexts_spell {ps : List (String × String)} {as : Members}
    (h : List.Forall₂ Tree.Spells ps as) :
    List.Forall₂ Tree.Spells (noteTexts ps) (noteMembers as) := by
  have hname : Tree.ofText? "\"attributes\"" = some (.text (Piece.ofString "attributes")) := rfl
  refine .cons ⟨hname, Tree.ofText?_objectText h⟩ ?_
  simp only [List.forall₂_cons, List.Forall₂.nil, and_true]
  exact ⟨⟨rfl, rfl⟩, ⟨rfl, rfl⟩, ⟨rfl, rfl⟩, ⟨rfl, rfl⟩, rfl, rfl⟩

/-- A foreign member, whose value is no number that can be. -/
def seen : List Piece × Tree :=
  (Piece.ofString "seen", .number ⟨false, ['1'], none, some (false, ['9', '9', '9'])⟩)

/-- The note turned around, its attributes as well, with the foreign member. -/
lemma noteMembers_rearranged : Tree.Rearranged (noteMembers moveMembers)
    (seen :: noteMembers moveMembers.reverse).reverse := by
  have hseen : Tree.Foreign seen := ⟨"seen", Piece.string?_ofString _, by decide⟩
  have hapart : Tree.FurtherApart moveMembers := by
    simp [Tree.FurtherApart, moveMembers, Piece.string?_ofString, isReserved]
  have hattributes : Tree.Rearranged (noteMembers moveMembers) (noteMembers moveMembers.reverse) :=
    .attributes _ (Piece.string?_ofString _) hapart (List.reverse_perm _).symm
  exact hattributes.trans (.trans (.foreign _ hseen) (.members (List.reverse_perm _).symm))

lemma noteMembers_whole : (Tree.record (noteMembers moveMembers)).Whole := by
  have hmove : (Tree.record moveMembers).Whole := by
    refine .record ?_
    simp only [moveMembers, List.forall_mem_cons]
    exact ⟨.text _, .text _, .number (i := 0) rfl (by decide) (by decide), nofun⟩
  refine .record ?_
  simp only [noteMembers, List.forall_mem_cons]
  exact ⟨hmove, .text _, .text _, .number (i := -5) rfl (by decide) (by decide), .text _, .text _,
    nofun⟩

/-- The note is read as it was when it is turned around and holds a foreign member; with a second
visitor it is not read. Its number is minus zero, which is read again from what is written. -/
theorem decoding_members_note :
    (ofWire? (Tree.objectText (noteTexts moveTexts))).isSome ∧
    ofWire? (Tree.objectText ((("\"seen\"", "1e999") :: noteTexts moveTexts.reverse).reverse)) =
      ofWire? (Tree.objectText (noteTexts moveTexts)) ∧
    ofWire? (Tree.objectText (("\"user_id\"", "\"u\"") :: noteTexts moveTexts)) = none ∧
    ∀ e, ofWire? (Tree.objectText (noteTexts moveTexts)) = some e →
      (∀ m ∈ e.extra, m.1 ≠ "state" ∧ m.1 ≠ "prev_state") ∧ ofWire? e.wire = some e := by
  obtain ⟨hmade, -, horder, hflawed, hextra, hagain⟩ := decoding_members
  have hnote := hmade _ _ (noteTexts_spell moveTexts_spell)
  have hturned := noteTexts_spell (List.rel_reverse moveTexts_spell)
  have hforeign : Tree.Spells ("\"seen\"", "1e999") seen := ⟨rfl, rfl⟩
  have hvisitor : Tree.Spells ("\"user_id\"", "\"u\"")
      (Piece.ofString "user_id", .text (Piece.ofString "u")) := ⟨rfl, rfl⟩
  refine ⟨?_, ?_, ?_, fun e he => ⟨hextra _ e he, hagain _ _ e hnote noteMembers_whole he⟩⟩
  · rw [ofWire?_eq hnote]
    decide +kernel
  · have hread := hmade _ _ (List.rel_reverse (.cons hforeign hturned))
    exact (horder _ _ _ _ hnote hread noteMembers_rearranged).symm
  · have htwice := hmade _ _ (.cons hvisitor (noteTexts_spell moveTexts_spell))
    exact hflawed _ _ htwice (@Tree.Flawed.field _ "user_id" (by decide) (by decide +kernel))

end Event

end ShopTraffic
