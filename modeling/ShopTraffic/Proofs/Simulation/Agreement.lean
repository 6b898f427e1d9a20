import ShopTraffic.Proofs.Simulation.Order

/-!
What an event says twice. The step of a visit writes down in the event whose visit it is, when the
visitor moved and where to; the payload says the same among its members, as the session has it after
the step. The two are written at different places, and whatever is drawn in between may change the
session, but only what is remembered for payloads. So the event and its payload agree.

No payload uses one of the two names that are kept for the move itself. So nothing of it is left out
when it is put into the event, and the event's attributes are the payload as it was made.
-/

namespace ShopTraffic

open ShopTraffic.Random

/-- The payload says the same of the visit as the event. -/
structure Event.Agrees (e : Event) : Prop where
  session : e.extra.get? "session_id" = some (.text e.session)
  user : e.extra.get? "user_id" = some (.text e.user)
  time : e.extra.get? "generated_at" = some (.ofInt e.time.toInt)
  state : e.extra.get? "current_state" = some (.text e.state.name)

/-- The attributes are a payload as it was made, by a session that is where the event says. -/
def Event.Carries (e : Event) : Prop :=
  ∃ (s : Session) (source : Source), s.id = e.session ∧ s.user = e.user ∧ s.state = e.state ∧
    s.previous = e.previous ∧ s.lastEvent = e.time ∧
    e.extra = (Payload.generate e.action s source).1.fields

/-- All that belongs to the behaviour model is the same. -/
structure Session.SameVisit (s s' : Session) : Prop where
  id : s'.id = s.id
  user : s'.user = s.user
  state : s'.state = s.state
  previous : s'.previous = s.previous
  lastEvent : s'.lastEvent = s.lastEvent
  expiry : s'.expiry = s.expiry
  keyword : s'.keyword = s.keyword

lemma Session.sameVisit_of_bare {s s' : Session} (h : s'.bare = s.bare) : s.SameVisit s' where
  id := (congrArg Session.id h :)
  user := (congrArg Session.user h :)
  state := (congrArg Session.state h :)
  previous := (congrArg Session.previous h :)
  lastEvent := (congrArg Session.lastEvent h :)
  expiry := (congrArg Session.expiry h :)
  keyword := (congrArg Session.keyword h :)

namespace Payload

variable {s : Session} {a : Action} {p : Part} {g : Generated}

/-! ### No payload uses a reserved name -/

/-- No member has a name that is kept for the move itself. -/
def Free (members : List (String × Json)) : Prop := ∀ m ∈ members, Event.isReserved m.1 = false

lemma free_append {members more : List (String × Json)} :
    Free (members ++ more) ↔ Free members ∧ Free more :=
  List.forall_mem_append

lemma free_common (s : Session) : Free (common s) := by
  simp [Free, common, Event.isReserved]

lemma free_pickedMembers (s : Session) {categoryName : String}
    (h : Event.isReserved categoryName = false) : Free (pickedMembers s categoryName) := by
  have hnames : Event.isReserved "product_id" = false ∧ Event.isReserved "country" = false := by
    decide
  simp [Free, pickedMembers, h, hnames]

lemma free_cart (s : Session) (stay : Json) : Free (cart s stay) := by
  refine free_append.mpr ⟨free_append.mpr ⟨free_pickedMembers s (by decide), ?_⟩, ?_⟩
  · split <;> simp [Free, Event.isReserved]
  · simp [Free, quantityMember, Event.isReserved]

lemma free_payment (s : Session) (method : String) (stay : Json) :
    Free (payment s method stay) := by
  refine free_append.mpr ⟨free_pickedMembers s (by decide), ?_⟩
  simp [Free, quantityMember, Event.isReserved]

/-- **No branch writes a reserved name.** -/
lemma Makes.free (h : Makes s a p) : Free p.members := by
  have hpicked : ∀ s : Session, Free (pickedMembers s "category") :=
    fun s => free_pickedMembers s (by decide)
  cases h <;>
    simp only [free_append, free_cart, free_payment, hpicked, true_and] <;>
    simp [Free, query, quantityMember, Event.isReserved]

lemma Tells.free (h : Tells s a g) : Free g.fields := by
  obtain ⟨p, hp, -, hfields⟩ := h
  rw [hfields]
  intro m hm
  rcases Fields.mem_insertAll hm with hm | hm
  · exact free_append.mpr ⟨hp.free, free_common p.session⟩ m hm
  · exact absurd hm List.not_mem_nil

/-- The attributes of the event are the payload, with nothing left out. -/
lemma Tells.withExtra_eq (h : Tells s a g) {e : Event} (he : e.extra = []) :
    e.withExtra g.fields = { e with extra := g.fields } := by
  have hall : g.fields.filter (fun m => !Event.isReserved m.1) = g.fields :=
    List.filter_eq_self.mpr fun m hm => by rw [h.free m hm]; rfl
  have hsorted : Fields.Sorted g.fields := by
    obtain ⟨p, -, -, hfields⟩ := h
    rw [hfields]
    exact Fields.sorted_ofList _
  rw [Event.withExtra, hall, he]
  exact congrArg (fun extra => { e with extra }) hsorted.ofList_eq

/-! ### What every payload says of the visit -/

lemma common_congr {s' : Session} (h : s.SameVisit s') : common s' = common s := by
  rw [common, common, h.id, h.user, h.lastEvent, h.state]

/-- What is added last is found there. -/
lemma Tells.get?_common (h : Tells s a g) {key : String} {v : Json}
    (hv : Fields.last? (common s) key = some v) : g.fields.get? key = some v := by
  obtain ⟨p, hp, -, hfields⟩ := h
  rw [hfields, Fields.ofList, Fields.get?_insertAll, Fields.last?_append,
    common_congr (Session.sameVisit_of_bare hp.keeps), hv]
  rfl

/-- An event that tells of the session agrees with the payload. -/
lemma Tells.agrees (h : Tells s a g) {e : Event} (hx : e.extra = g.fields)
    (hid : e.session = s.id) (hu : e.user = s.user) (ht : e.time = s.lastEvent)
    (hs : e.state = s.state) : e.Agrees where
  session := by rw [hx, hid]; exact h.get?_common rfl
  user := by rw [hx, hu]; exact h.get?_common rfl
  time := by rw [hx, ht]; exact h.get?_common rfl
  state := by rw [hx, hs]; exact h.get?_common rfl

end Payload

/-! ### The events that are sent -/

namespace Simulation

variable {sim sim' : Simulation} {handle : Nat} {now : Time} {e : Event}

/-- **The event is the one that the step made, with the payload as it was made.** -/
lemma advance_described (h : sim.advance handle now = (sim', some e)) :
    ∃ s e₀ source,
      (sim.registry.session handle).step sim.table now sim.engineSource =
        ((s, some e₀), source) ∧
      let g := (Payload.generate e₀.action s sim.payloadSource).1
      e = { e₀ with extra := g.fields } ∧
        sim'.registry = sim.registry.update handle fun _ => g.session := by
  have hm := Session.step_moved sim.table (sim.registry.session handle) now sim.engineSource
  unfold advance at h
  split at h
  · cases (congrArg Prod.snd h : none = some e)
  · next s e₀ source hs =>
    rw [hs] at hm
    obtain rfl : _ = sim' := congrArg Prod.fst h
    obtain rfl : _ = e := Option.some.inj (congrArg Prod.snd h)
    have ht : Payload.Tells s e₀.action (Payload.generate e₀.action s sim.payloadSource).1 :=
      Payload.generate_tells s e₀.action sim.payloadSource
    exact ⟨s, e₀, source, hs, ht.withExtra_eq hm.2, rfl⟩

lemma advance_agrees (h : sim.advance handle now = (sim', some e)) : e.Agrees ∧ e.Carries := by
  have hm := Session.step_moved sim.table (sim.registry.session handle) now sim.engineSource
  obtain ⟨s, e₀, source, hs, rfl, -⟩ := advance_described h
  rw [hs] at hm
  obtain ⟨hmoved, -⟩ := hm
  obtain ⟨hu, hid, hst, hp, ht⟩ := hmoved.told
  have htime := hmoved.lastEvent.trans ht.symm
  have htells := Payload.generate_tells s e₀.action sim.payloadSource
  exact ⟨htells.agrees rfl hid hu htime.symm hst,
    s, sim.payloadSource, hid.symm, hu.symm, hst.symm, hp.symm, htime, rfl⟩

end Simulation

namespace Weave

variable {w w' : Weave} {m : Move}

/-- A move makes one event at most, and that agrees with its payload. -/
lemma Effect.agrees (he : w.Effect m w')
    (h : ∀ x ∈ w.made, x.event.Agrees ∧ x.event.Carries) :
    ∀ x ∈ w'.made, x.event.Agrees ∧ x.event.Carries := by
  cases he with
  | move place user n now sim e hp ha =>
    intro x hx
    rcases List.mem_append.mp hx with hx | hx
    · exact h x hx
    · rw [List.mem_singleton.mp hx]
      exact Simulation.advance_agrees ha
  | _ => exact h

lemma run_agrees (h : ∀ x ∈ w.made, x.event.Agrees ∧ x.event.Carries) (moves : List Move) :
    ∀ x ∈ (w.run moves).made, x.event.Agrees ∧ x.event.Carries := by
  induction moves generalizing w with
  | nil => exact h
  | cons m moves ih => exact ih ((w.perform_effect m).agrees h)

/-- **The event and its payload agree, and payloads leave the behaviour model alone.** Whatever the
session, the action and what is drawn: making a payload changes nothing that belongs to the
behaviour model, and an event that has no attributes yet gets the payload as it was made, with
nothing left out. So for any registry and table the event of a step is the one that the session's
move made, with that payload, and the session is written back as the payload left it. However steps,
sweeps, look-ups and the consumers of the queue are interleaved, every event that is made, and so
every one that the queue has taken, says the same of its visit in the payload and outside it. -/
theorem run_payloads (T : Table) (ttl : Time) (capacity : Nat) (visitors : Visitors)
    (users engine payloads : Source) (moves : List Move) :
    let w := (start T ttl capacity visitors users engine payloads).run moves
    (∀ (a : Action) (s : Session) (source : Source),
      let g := (Payload.generate a s source).1
      s.SameVisit g.session ∧
        ∀ e : Event, e.extra = [] → e.withExtra g.fields = { e with extra := g.fields }) ∧
    (∀ (sim sim' : Simulation) (handle : Nat) (now : Time) (e : Event),
      sim.advance handle now = (sim', some e) → e.Agrees ∧
        ∃ s e₀ source,
          (sim.registry.session handle).step sim.table now sim.engineSource =
            ((s, some e₀), source) ∧
          let g := (Payload.generate e₀.action s sim.payloadSource).1
          e = { e₀ with extra := g.fields } ∧
            sim'.registry = sim.registry.update handle fun _ => g.session) ∧
    (∀ x ∈ w.made, x.event.Agrees ∧ x.event.Carries) ∧
    ∀ e ∈ w.arrived, e.Agrees ∧ e.Carries := by
  intro w
  have hmade : ∀ x ∈ w.made, x.event.Agrees ∧ x.event.Carries :=
    run_agrees (fun x hx => absurd hx List.not_mem_nil) moves
  have ho : w.Ordered := run_ordered (start_ordered T ttl capacity visitors users engine payloads) _
  refine ⟨fun a s source => ⟨?_, fun e he => ?_⟩, fun sim sim' handle now e h => ?_, hmade,
    fun e he => ?_⟩
  · exact Session.sameVisit_of_bare (Payload.generate_keeps s a source)
  · exact Payload.Tells.withExtra_eq (Payload.generate_tells s a source) he
  · exact ⟨(Simulation.advance_agrees h).1, Simulation.advance_described h⟩
  · rw [ho.arrived] at he
    obtain ⟨n, hn, rfl⟩ := List.mem_map.mp he
    refine hmade _ ?_
    rw [numbered, List.getElem?_eq_getElem (ho.bound n hn)]
    exact List.getElem_mem _

/-- Someone clicks on a category, and the payload says so too. -/
theorem run_payloads_click :
    let w := corner.run [.begin 0, .begin 0, .go 0]
    ∃ e, w.made.map Made.event = [e] ∧ e.state = .click ∧
      e.extra.get? "current_state" = some (.text "click") ∧
      e.extra.get? "user_id" = some (.text e.user) := by
  intro w
  obtain ⟨sim, e, hw, -, -, -, -, -, hclick, -⟩ := corner_first
  have hmade : w.made = [⟨e, []⟩] := congrArg Weave.made hw
  obtain ⟨-, -, hagrees, -⟩ := run_payloads .standard 10 2 ⟨#["user_1"]⟩ (.seeded 0) (.seeded 1)
    (.seeded 0) [.begin 0, .begin 0, .go 0]
  obtain ⟨he, -⟩ := hagrees ⟨e, []⟩ (hmade ▸ List.mem_singleton_self _)
  have hstate := he.state
  rw [hclick] at hstate
  exact ⟨e, congrArg (List.map Made.event) hmade, hclick, hstate, he.user⟩

end Weave

end ShopTraffic
