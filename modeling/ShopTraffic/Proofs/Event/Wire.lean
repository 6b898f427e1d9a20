import ShopTraffic.Event.Wire
import ShopTraffic.Proofs.Json.RoundTrip
import ShopTraffic.Proofs.Random.Always

/-!
Events, written and read again. An event is read back from its wire text as it was, so that events
that differ have texts that differ. What this needs is that the further attributes hold no floats,
are not nested too deeply and leave alone the two names of the move; the last is so however
attributes have been added.
-/

namespace ShopTraffic

open ShopTraffic.Random

lemma State.ofName?_name (s : State) : ofName? s.name = some s := by
  cases s <;> rfl

lemma Action.ofName?_name (a : Action) : ofName? a.name = some a := by
  cases a <;> rfl

lemma Json.toInt_inRange (t : Int64) : minInteger ≤ t.toInt ∧ t.toInt ≤ maxInteger := by
  have hlow := t.le_toInt
  have hhigh := t.toInt_lt
  rw [minInteger, maxInteger]
  omega

namespace Event

/-- The further attributes can be written and read: their names are in order and none of them is
reserved, and their values are plain. -/
structure Writable (e : Event) : Prop where
  sorted : Fields.Sorted e.extra
  free : ∀ m ∈ e.extra, isReserved m.1 = false
  plain : ∀ m ∈ e.extra, m.2.Plain Tree.attributeDepth
  ordered : ∀ m ∈ e.extra, m.2.Ordered

/-- The same, with minus zero among the numbers. -/
structure Legible (e : Event) : Prop where
  sorted : Fields.Sorted e.extra
  free : ∀ m ∈ e.extra, isReserved m.1 = false
  legible : ∀ m ∈ e.extra, m.2.Legible Tree.attributeDepth
  ordered : ∀ m ∈ e.extra, m.2.Ordered

variable {e : Event}

lemma Writable.legible (h : e.Writable) : e.Legible :=
  ⟨h.sorted, h.free, fun m hm => (h.plain m hm).legible, h.ordered⟩

lemma Legible.attributes (h : e.Legible) :
    (Json.record e.attributes).Legible (Tree.attributeDepth + 1) := by
  refine .record fun m hm => ?_
  simp only [Event.attributes, List.mem_cons] at hm
  rcases hm with rfl | rfl | hm
  · exact .text _
  · exact .text _
  · exact h.legible m hm

lemma Legible.members (h : e.Legible) : (Json.record e.members).Legible Tree.maxDepth := by
  refine .record fun m hm => ?_
  simp only [Event.members, List.mem_cons, List.not_mem_nil, or_false] at hm
  rcases hm with rfl | rfl | rfl | rfl | rfl | rfl
  case inr.inr.inl =>
    obtain ⟨hlow, hhigh⟩ := Json.toInt_inRange e.time
    exact .integer hlow hhigh
  case inr.inr.inr.inr.inr => exact h.attributes
  all_goals exact .text _

end Event

namespace Tree

lemma named?_memberTrees (fs : List (String × Json)) :
    named? (Json.memberTrees fs) = some (fs.map fun m => (m.1, m.2.tree)) := by
  rw [named?]
  induction fs with
  | nil => rfl
  | cons m fs ih =>
    rw [Json.memberTrees, List.mapM_cons, ih, Piece.string?_ofString]
    rfl

lemma tag?_tree (s : String) : (Json.text s).tree.tag? = some s := Piece.string?_ofString s

lemma time?_tree (t : Time) : (Json.ofInt t.toInt).tree.time? = some t := by
  obtain ⟨hlow, hhigh⟩ := Json.toInt_inRange t
  have hlt := t.toInt_lt
  rw [Json.ofInt, Json.tree, time?, Numeral.number?_ofInt hlow hhigh]
  simp only
  rw [if_pos (by omega), Int64.ofInt_toInt]

section Sole

variable {α : Type} {name : String} {ms : List (String × α)}

lemma sole?_cons_ne {k : String} (x : α) (h : k ≠ name) :
    sole? name ((k, x) :: ms) = sole? name ms := by
  rw [sole?, sole?, List.filter_cons_of_neg (by simpa using h)]

lemma sole?_cons_self (x : α) (h : ∀ m ∈ ms, m.1 ≠ name) :
    sole? name ((name, x) :: ms) = some x := by
  have hnone : ms.filter (·.1 = name) = [] := by simpa [List.filter_eq_nil_iff] using h
  rw [sole?, List.filter_cons_of_pos (by simp), hnone]

end Sole

/-- The further attributes as they are read. -/
lemma mapM_value?_tree {fs : Fields} (hlegible : ∀ m ∈ fs, m.2.Legible attributeDepth)
    (hordered : ∀ m ∈ fs, m.2.Ordered) :
    ((fs.map fun m => (m.1, m.2.tree)).mapM fun m => do
      return (m.1, (← value? attributeDepth m.2))) = some fs := by
  induction fs with
  | nil => rfl
  | cons m fs ih =>
    obtain ⟨hm, hfs⟩ := List.forall_mem_cons.mp hlegible
    obtain ⟨hm', hfs'⟩ := List.forall_mem_cons.mp hordered
    rw [List.map_cons, List.mapM_cons, ih hfs hfs', hm.value?_tree hm']
    rfl

/-- The attributes mean the move and the further attributes. -/
lemma attributes?_tree {e : Event} (h : e.Legible) :
    (Json.record e.attributes).tree.attributes? = some (e.state, e.previous, e.extra) := by
  have hfree : ∀ m ∈ e.extra.map fun m => (m.1, m.2.tree), Event.isReserved m.1 = false := by
    intro m hm
    obtain ⟨m', hm', rfl⟩ := List.mem_map.mp hm
    exact h.free m' hm'
  have hne : ∀ name, Event.isReserved name = true →
      ∀ m ∈ e.extra.map fun m => (m.1, m.2.tree), m.1 ≠ name := by
    rintro name hname m hm rfl
    exact Bool.false_ne_true ((hfree m hm).symm.trans hname)
  have hfilter : (e.extra.map fun m => (m.1, m.2.tree)).filter (fun m => !Event.isReserved m.1) =
      e.extra.map fun m => (m.1, m.2.tree) :=
    List.filter_eq_self.mpr fun m hm => by rw [hfree m hm]; rfl
  have hextra := mapM_value?_tree h.legible h.ordered
  rw [Json.tree, attributes?, named?_memberTrees, Event.attributes, List.map_cons, List.map_cons]
  simp only [Option.bind_eq_bind, Option.bind_some] at hextra ⊢
  rw [sole?_cons_self _ ?_, sole?_cons_ne _ (by decide), sole?_cons_self _ (hne _ (by decide))]
  · simp only [Option.bind_some, state?, tag?_tree, Option.bind_eq_bind, State.ofName?_name,
      List.filter_cons]
    rw [if_neg (by decide), if_neg (by decide), hfilter, hextra, Option.bind_some,
      h.sorted.ofList_eq]
    rfl
  · intro m hm
    rcases List.mem_cons.mp hm with rfl | hm
    · exact (by decide : "prev_state" ≠ "state")
    · exact hne _ (by decide) m hm

/-- **The tree of what is written for an event stands for the event.** -/
lemma event?_tree {e : Event} (h : e.Legible) : (Json.record e.members).tree.event? = some e := by
  have hparts : (Json.record e.members).tree.eventParts? = some
      { id := (Json.text e.id).tree, action := (Json.text e.action.name).tree,
        time := (Json.ofInt e.time.toInt).tree, user := (Json.text e.user).tree,
        session := (Json.text e.session).tree,
        attributes := (Json.record e.attributes).tree } := by
    have htree : (Json.record e.members).tree = .record (Json.memberTrees e.members) := by
      rw [Json.tree]
    rw [htree, eventParts?, named?_memberTrees]
    rfl
  rw [event?, hparts]
  simp only [Option.bind_eq_bind, Option.bind_some, attributes?_tree h, time?_tree, action?,
    tag?_tree, Action.ofName?_name]
  simp [Json.tree, string?, Piece.string?_ofString]

end Tree

namespace Event

variable {e : Event}

lemma Legible.ofText?_wire (h : e.Legible) :
    Tree.ofText? e.wire = some (Json.record e.members).tree :=
  h.members.ofText?_render

/-- An event is read back as it was written. -/
lemma Legible.ofWire?_wire (h : e.Legible) : ofWire? e.wire = some e := by
  rw [ofWire?, h.ofText?_wire, Option.bind_eq_bind, Option.bind_some]
  exact Tree.event?_tree h

lemma Writable.ofWire?_wire (h : e.Writable) : ofWire? e.wire = some e := h.legible.ofWire?_wire

lemma writable_of_extra (h : e.extra = []) : e.Writable where
  sorted := h ▸ .nil
  free := h ▸ nofun
  plain := h ▸ nofun
  ordered := h ▸ nofun

structure Attachable (more : Fields) : Prop where
  plain : (Json.record more).Plain (Tree.attributeDepth + 1)
  ordered : (Json.record more).Ordered

lemma draw_extra (action : Action) (now : Time) (user session : String) (state previous : State) :
    (draw action now user session state previous).Always (·.extra = []) :=
  Draw.always_bind _ fun _ => Draw.always_pure rfl

/-- Adding attributes keeps an event writable, whatever names they have. -/
lemma Writable.withExtra (h : e.Writable) {more : Fields} (hmore : Attachable more) :
    (e.withExtra more).Writable := by
  have plain := hmore.plain.of_record
  have ordered := hmore.ordered.of_record.2
  have hmem : ∀ m ∈ (e.withExtra more).extra,
      m ∈ more ∧ isReserved m.1 = false ∨ m ∈ e.extra := by
    intro m hm
    refine (Fields.mem_insertAll hm).imp_left fun hm => ?_
    obtain ⟨hm, hfree⟩ := List.mem_filter.mp hm
    exact ⟨hm, by simpa using hfree⟩
  refine ⟨h.sorted.insertAll _, fun m hm => ?_, fun m hm => ?_, fun m hm => ?_⟩
  · exact (hmem m hm).elim (·.2) (h.free m)
  · exact (hmem m hm).elim (fun hm => plain m hm.1) (h.plain m)
  · exact (hmem m hm).elim (fun hm => ordered m hm.1) (h.ordered m)

lemma Writable.withExtras (h : e.Writable) {more : List Fields}
    (hmore : ∀ fs ∈ more, Attachable fs) : (more.foldl Event.withExtra e).Writable := by
  induction more generalizing e with
  | nil => exact h
  | cons fs more ih =>
    obtain ⟨hfs, hmore⟩ := List.forall_mem_cons.mp hmore
    exact ih (h.withExtra hfs) hmore

/-- **Reading undoes writing.** An event that can be written is read back from its wire text, and
two such events that differ have wire texts that differ. So it is with every event that is drawn,
whatever attributes are added to it one after the other, reserved names included. -/
theorem wire_roundTrip :
    (∀ e : Event, e.Writable → ofWire? e.wire = some e) ∧
    (∀ e e' : Event, e.Writable → e'.Writable → e ≠ e' → e.wire ≠ e'.wire) ∧
    ∀ (action : Action) (now : Time) (user session : String) (state previous : State)
      (more : List Fields), (∀ fs ∈ more, Attachable fs) →
      (draw action now user session state previous).Always fun e =>
        (more.foldl withExtra e).Writable ∧
          ofWire? (more.foldl withExtra e).wire = some (more.foldl withExtra e) := by
  refine ⟨fun e h => h.ofWire?_wire, fun e e' h h' hne heq => ?_, ?_⟩
  · have hread := h.ofWire?_wire
    rw [heq, h'.ofWire?_wire] at hread
    exact hne (Option.some.inj hread).symm
  · intro action now user session state previous more hmore src
    have hbuilt := writable_of_extra (draw_extra action now user session state previous src)
    exact ⟨hbuilt.withExtras hmore, (hbuilt.withExtras hmore).ofWire?_wire⟩

/-- An event at the ends of what can be written: control characters, a quote and a backslash, the
first instant there is, no place, the largest and the least number, and a name of a member of the
event itself. -/
def awkward : Event where
  id := "evt-\"0\"\n\x01"
  action := .back
  time := Int64.minValue
  user := "é😀"
  session := ""
  state := .outside
  previous := .exit
  extra := [("", .list [.record [("a", .null), ("b", .bool true)], .text "\\\t/", .list []]),
    ("event_id", .number (.integer Json.maxInteger)), ("n", .number (.integer Json.minInteger))]

lemma awkward_writable : awkward.Writable where
  sorted := by decide +kernel
  free := by decide +kernel
  plain m hm := by
    simp only [awkward, List.mem_cons, List.not_mem_nil, or_false] at hm
    rcases hm with rfl | rfl | rfl
    · refine .list (List.forall_mem_cons.mpr ⟨.record ?_, ?_⟩)
      · simp [Json.Plain.null, Json.Plain.bool]
      · simp [Json.Plain.text, Json.Plain.list]
    · exact .integer (by decide) (by decide)
    · exact .integer (by decide) (by decide)
  ordered m hm := by
    simp only [awkward, List.mem_cons, List.not_mem_nil, or_false] at hm
    rcases hm with rfl | rfl | rfl
    · refine .list (List.forall_mem_cons.mpr ⟨.record (by decide) ?_, ?_⟩)
      · simp [Json.Ordered.null, Json.Ordered.bool]
      · simp [Json.Ordered.text, Json.Ordered.list]
    · exact .number _
    · exact .number _

/-- What an event says of another event, and what it must not say of its own move. -/
def remark : Fields :=
  [("event_ts", .ofInt (-1)), ("state", .text "exit"), ("views", .record [("é", .list [.null])])]

lemma remark_attachable : Attachable remark where
  plain := by
    refine .record ?_
    simp only [remark, List.forall_mem_cons]
    refine ⟨.integer (by decide) (by decide), .text _, .record ?_, nofun⟩
    simp [Json.Plain.list, Json.Plain.null]
  ordered := by
    refine .record (by decide +kernel) ?_
    simp only [remark, List.forall_mem_cons]
    refine ⟨.number _, .text _, .record (by decide) ?_, nofun⟩
    simp [Json.Ordered.list, Json.Ordered.null]

/-- The awkward event is read back, its text is no other event's, and an event that is drawn is read
back with a remark, which has not changed its move. -/
theorem wire_roundTrip_awkward :
    awkward.Writable ∧ ofWire? awkward.wire = some awkward ∧
    ({ awkward with previous := .click } : Event).wire ≠ awkward.wire ∧
    Attachable remark ∧
    ofWire? (((draw .back 5 "u" "s" .search .click (.seeded 7)).1.withExtra remark).wire) =
      some ((draw .back 5 "u" "s" .search .click (.seeded 7)).1.withExtra remark) ∧
    ((draw .back 5 "u" "s" .search .click (.seeded 7)).1.withExtra remark).extra.map (·.1) =
      ["event_ts", "views"] := by
  obtain ⟨hread, hdistinct, hbuilt⟩ := wire_roundTrip
  have hother : ({ awkward with previous := .click } : Event).Writable :=
    ⟨awkward_writable.sorted, awkward_writable.free, awkward_writable.plain,
      awkward_writable.ordered⟩
  have hne : ({ awkward with previous := .click } : Event) ≠ awkward := fun h =>
    State.noConfusion (congrArg Event.previous h)
  have hremark : ∀ fs ∈ [remark], Attachable fs := by simpa using remark_attachable
  refine ⟨awkward_writable, hread _ awkward_writable, hdistinct _ _ hother awkward_writable hne,
    remark_attachable, (hbuilt .back 5 "u" "s" .search .click [remark] hremark (.seeded 7)).2, ?_⟩
  decide +kernel

end Event

end ShopTraffic
