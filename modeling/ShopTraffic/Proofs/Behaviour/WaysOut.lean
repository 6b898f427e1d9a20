import ShopTraffic.Proofs.Behaviour.Reach
import ShopTraffic.Proofs.Behaviour.Visits

/-!
Ways out of the shop. The search for states without a way to the exit takes going back for a way to
the start, but a visitor who goes back comes to the place before, and going back from there leads to
and fro. So a visitor can be caught though no state is found to be without a way out: among states
from which the exit can only be reached by going back, as soon as two of them follow each other.
-/

namespace ShopTraffic

open ShopTraffic.Random Relation

def Session.place (s : Session) : Place := ⟨s.state, s.previous⟩

namespace Table

def CanLeave (T : Table) (a : Place) : Prop := ∃ b, ReflTransGen T.Leads a b ∧ b.state = .exit

/-- A possible transition leads from one state to the other without going back. -/
def Ahead (T : Table) (s u : State) : Prop :=
  ∃ t ∈ T.transitions s, t.possible = true ∧ t.target = some u

def GetsTo (T : Table) : State → State → Prop := ReflTransGen T.Ahead

variable {T : Table} {a b : Place} {s u : State}

/-! ### Visits and places -/

/-- **Every visit is at a place that possible transitions lead to.** -/
lemma visits_place (hT : T.LeadsInside) {v : Visit} (h : v.Reached T) :
    T.Visits v.session.place := by
  have hw := h.walking hT
  rw [Session.place, hw.state, hw.previous]
  exact hw.walk.visits hT

lemma Ahead.leads (h : T.Ahead s u) (p : State) : T.Leads ⟨s, p⟩ ⟨u, s⟩ := by
  obtain ⟨t, hmem, hpossible, htarget⟩ := h
  exact ⟨t, hmem, hpossible, by rw [Transition.next, htarget]; rfl⟩

/-- A path that never goes back can be walked from wherever one came. -/
lemma GetsTo.leads (h : T.GetsTo s u) (p : State) : ∃ q, ReflTransGen T.Leads ⟨s, p⟩ ⟨u, q⟩ := by
  induction h with
  | refl => exact ⟨p, .refl⟩
  | tail _ hnext ih =>
    obtain ⟨q, hq⟩ := ih
    exact ⟨_, hq.tail (hnext.leads q)⟩

lemma GetsTo.canLeave (h : T.GetsTo a.state .exit) : T.CanLeave a := by
  obtain ⟨q, hq⟩ := h.leads a.previous
  exact ⟨_, hq, rfl⟩

/-- A transition goes ahead, or back. -/
lemma Leads.cases (h : T.Leads a b) :
    b.previous = a.state ∧ (T.Ahead a.state b.state ∨
      (∃ t ∈ T.transitions a.state, t.possible = true ∧ t.target = none) ∧
        b.state = State.backTo a.previous) := by
  obtain ⟨t, hmem, hpossible, rfl⟩ := h
  refine ⟨rfl, ?_⟩
  rcases htarget : t.target with _ | u
  · exact .inr ⟨⟨t, hmem, hpossible, htarget⟩, by rw [Transition.next, htarget]; rfl⟩
  · exact .inl ⟨t, hmem, hpossible, by rw [Transition.next, htarget]; rfl⟩

lemma GetsTo.inside (hT : T.LeadsInside) (h : T.GetsTo .start s) : s ≠ .outside := by
  cases h with
  | refl => exact State.noConfusion
  | tail _ hnext =>
    obtain ⟨t, hmem, -, htarget⟩ := hnext
    rintro rfl
    exact hT _ t hmem htarget

/-- Wherever a visitor is or was, there is a path ahead from the start to it. -/
lemma Visits.getsTo (h : T.Visits a) :
    T.GetsTo .start a.state ∧ (a.previous = .outside ∨ T.GetsTo .start a.previous) := by
  induction h with
  | refl => exact ⟨.refl, .inl rfl⟩
  | @tail a b _ hnext ih =>
    obtain ⟨hprevious, hahead | ⟨-, hback⟩⟩ := hnext.cases <;> rw [hprevious]
    · exact ⟨ih.1.tail hahead, .inr ih.1⟩
    · refine ⟨?_, .inr ih.1⟩
      rw [hback, State.backTo]
      split
      · exact .refl
      · next hp => exact ih.2.resolve_left hp

/-! ### Being caught -/

/-- A place where the exit is ahead neither of the state nor of the state before. -/
structure Caught (T : Table) (a : Place) : Prop where
  state : ¬T.GetsTo a.state .exit
  previous : ¬T.GetsTo a.previous .exit
  inside : a.state ≠ .outside ∧ a.previous ≠ .outside

lemma Caught.leads (hT : T.LeadsInside) (h : T.Caught a) (hab : T.Leads a b) : T.Caught b := by
  obtain ⟨hprevious, hahead | ⟨-, hback⟩⟩ := hab.cases
  · refine ⟨fun hb => h.state (.head hahead hb), hprevious ▸ h.state, ?_, hprevious ▸ h.inside.1⟩
    obtain ⟨t, hmem, -, htarget⟩ := hahead
    intro hb
    exact hT _ t hmem (hb ▸ htarget)
  · rw [State.backTo, if_neg h.inside.2] at hback
    exact ⟨hback ▸ h.previous, hprevious ▸ h.state, hback ▸ h.inside.2, hprevious ▸ h.inside.1⟩

/-- **Nobody who is caught ever leaves.** -/
lemma Caught.not_canLeave (hT : T.LeadsInside) (h : T.Caught a) : ¬T.CanLeave a := by
  have hstays : ∀ b, ReflTransGen T.Leads a b → T.Caught b := by
    intro b hab
    induction hab with
    | refl => exact h
    | tail _ hnext ih => exact ih.leads hT hnext
  rintro ⟨b, hab, hb⟩
  exact (hstays b hab).state (hb ▸ .refl)

/-- Two states in a row that do not have the exit ahead catch whoever comes to them. -/
lemma GetsTo.caught (hT : T.LeadsInside) (hs : T.GetsTo .start s) (hno : ¬T.GetsTo s .exit)
    (hahead : T.Ahead s u) : ∃ a, T.Visits a ∧ T.Caught a := by
  obtain ⟨p, hp⟩ := hs.leads .outside
  refine ⟨⟨u, s⟩, hp.tail (hahead.leads p), ?_⟩
  exact ⟨fun hu => hno (.head hahead hu), hno, GetsTo.inside hT (hs.tail hahead), hs.inside hT⟩

/-! ### When the search tells the truth -/

/-- The search follows every transition that can be drawn. -/
lemma next_of_possible {t : Transition} (hmem : t ∈ T.transitions s)
    (hpossible : t.possible = true) : T.Next s (t.target.getD .start) :=
  List.mem_map.mpr ⟨t, List.mem_filter.mpr ⟨hmem, hpossible⟩, rfl⟩

lemma Ahead.next (h : T.Ahead s u) : T.Next s u := by
  obtain ⟨t, hmem, hpossible, htarget⟩ := h
  simpa [htarget] using next_of_possible hmem hpossible

lemma GetsTo.reaches (h : T.GetsTo s u) : T.Reaches s u :=
  ReflTransGen.mono (fun _ _ => Ahead.next) s u h

lemma statesWithoutExit_eq_nil (h : ∀ s ≠ .outside, T.Reaches s .exit) :
    T.statesWithoutExit = [] := by
  refine List.eq_nil_iff_forall_not_mem.mpr fun s hs => ?_
  obtain ⟨hall, -, hno⟩ := mem_statesWithoutExit.mp hs
  exact hno (h s (by rintro rfl; revert hall; decide))

/-- If the search finds a way from the start, there is one ahead. -/
lemma Reaches.getsTo (h : T.Reaches .start .exit) : T.GetsTo .start .exit := by
  by_contra hno
  -- what the search takes for a way back leads to the start, from where no way is ahead either
  have hclosed : ∀ s, T.Reaches .start s → ¬T.GetsTo s .exit := by
    intro s hs
    induction hs with
    | refl => exact hno
    | @tail s u _ hnext ih =>
      obtain ⟨t, ht, rfl⟩ := List.mem_map.mp hnext
      obtain ⟨hmem, hpossible⟩ := List.mem_filter.mp ht
      rcases htarget : t.target with _ | u
      · exact hno
      · exact fun hu => ih (.head ⟨t, hmem, hpossible, htarget⟩ hu)
  exact hclosed .exit h .refl

lemma start_getsTo (hrow : T.transitions .start ≠ []) (hstates : T.statesWithoutExit = []) :
    T.GetsTo .start .exit := by
  refine Reaches.getsTo (by_contra fun hno => ?_)
  rcases hfound : T.row? .start with _ | row
  · exact hrow (by rw [transitions, hfound]; rfl)
  · have hmem : State.start ∈ T.statesWithoutExit := by
      refine mem_statesWithoutExit.mpr ⟨by decide, ⟨row, hfound, ?_⟩, hno⟩
      rwa [transitions, hfound] at hrow
    rw [hstates] at hmem
    cases hmem

/-- Each state ahead of the start has the exit ahead, or only leads back. -/
def OnlyBack (T : Table) : Prop :=
  ∀ s, T.GetsTo .start s → T.GetsTo s .exit ∨ ∀ t ∈ T.transitions s, t.target = none

/-- Where states without the exit ahead only lead back, one comes to them from a state that has the
exit ahead. -/
lemma Visits.back_getsTo (h : T.Visits a) (hstart : T.GetsTo .start .exit)
    (hcond : T.OnlyBack) (hs : ¬T.GetsTo a.state .exit) :
    T.GetsTo (State.backTo a.previous) .exit := by
  induction h with
  | refl => exact hstart
  | @tail a b ha hab ih =>
    obtain ⟨hprevious, hmove⟩ := hab.cases
    have hfrom : T.GetsTo a.state .exit := by
      rcases hmove with ⟨t, hmem, -, htarget⟩ | ⟨-, hback⟩
      · -- a state that leads ahead does not only lead back
        refine (hcond _ (Visits.getsTo ha).1).resolve_right fun hnone => ?_
        exact absurd ((hnone t hmem).symm.trans htarget) nofun
      · by_contra hno
        exact hs (hback ▸ ih hno)
    rw [hprevious, State.backTo]
    split
    · exact hstart
    · exact hfrom

lemma Visits.canLeave (h : T.Visits a) (hstart : T.GetsTo .start .exit) (hcond : T.OnlyBack)
    (hrow : a.state ≠ .exit → T.transitions a.state ≠ [])
    (hpossible : ∀ t ∈ T.transitions a.state, t.possible = true) : T.CanLeave a := by
  by_cases hs : T.GetsTo a.state .exit
  · exact hs.canLeave
  have hback := (hcond _ h.getsTo.1).resolve_left hs
  obtain ⟨t, hmem⟩ := List.exists_mem_of_ne_nil _ (hrow fun hx => hs (hx ▸ .refl))
  have hnext : T.Leads a ⟨State.backTo a.previous, a.state⟩ :=
    ⟨t, hmem, hpossible t hmem, by rw [Transition.next, hback t hmem]; rfl⟩
  obtain ⟨b, hb, hx⟩ : T.CanLeave ⟨State.backTo a.previous, a.state⟩ :=
    (h.back_getsTo hstart hcond hs).canLeave
  exact ⟨b, .head hnext hb, hx⟩

/-- **Who can be caught.** Let every state but the exit have transitions, all of them possible and
none leading outside, and let the search find no state without a way out. Then everyone can leave,
from wherever possible transitions have led, if and only if each state ahead of the start has the
exit ahead or only leads back. -/
theorem visits_canLeave_iff (T : Table) (hrows : ∀ s ∈ State.all, s ≠ .exit → T.transitions s ≠ [])
    (hweights : ∀ s, ∀ t ∈ T.transitions s, t.weight > 0) (hT : T.LeadsInside)
    (hstates : T.statesWithoutExit = []) :
    (∀ v : Visit, v.Reached T → T.Visits v.session.place) ∧
    ((∀ a, T.Visits a → T.CanLeave a) ↔
      ∀ s, T.GetsTo .start s → T.GetsTo s .exit ∨ ∀ t ∈ T.transitions s, t.target = none) := by
  have hpossible : ∀ s, ∀ t ∈ T.transitions s, t.possible = true :=
    fun s t ht => decide_eq_true (hweights s t ht)
  have hall : ∀ s, T.GetsTo .start s → s ∈ State.all := by
    intro s hs
    exact (List.mem_cons.mp (mem_everyState s)).resolve_left (hs.inside hT)
  have hstart : T.GetsTo .start .exit :=
    start_getsTo (hrows .start (by decide) (by decide)) hstates
  refine ⟨fun v hv => visits_place hT hv, fun hleave s hs => ?_, fun hcond a ha => ?_⟩
  · refine or_iff_not_imp_left.mpr fun hno t hmem => ?_
    rcases htarget : t.target with _ | u
    · rfl
    · obtain ⟨a, ha, hcaught⟩ := hs.caught hT hno ⟨t, hmem, hpossible s t hmem, htarget⟩
      exact absurd (hleave a ha) (hcaught.not_canLeave hT)
  · exact ha.canLeave hstart hcond (hrows _ (hall _ ha.getsTo.1)) (hpossible _)

/-- Everyone can leave the ticket shop. -/
theorem visits_canLeave_standard :
    (∀ s ∈ State.all, s ≠ .exit → standard.transitions s ≠ []) ∧
    (∀ s, ∀ t ∈ standard.transitions s, t.weight > 0) ∧ standard.LeadsInside ∧
    standard.statesWithoutExit = [] ∧ ∀ a, standard.Visits a → standard.CanLeave a := by
  have hexit : ∀ s ≠ .outside, standard.GetsTo s .exit := by
    have hahead : ∀ s, (∃ t ∈ standard.transitions s, t.possible = true ∧ t.target = some .exit) →
        standard.GetsTo s .exit := fun _ h => .single h
    intro s hs
    cases s with
    | outside => exact absurd rfl hs
    | exit => exact .refl
    | _ => exact hahead _ (by decide +kernel)
  have hrows : ∀ s ∈ State.all, s ≠ .exit → standard.transitions s ≠ [] := by decide
  have hweights : ∀ s, ∀ t ∈ standard.transitions s, t.weight > 0 := by
    intro s
    cases s <;> decide +kernel
  have hstates := statesWithoutExit_eq_nil fun s hs => (hexit s hs).reaches
  refine ⟨hrows, hweights, standard_leadsInside, hstates, ?_⟩
  exact (visits_canLeave_iff standard hrows hweights standard_leadsInside hstates).2.mpr
    fun s hs => .inl (hexit s (hs.inside standard_leadsInside))

/-- Who looks at the results of a search can turn a page and come back, and nothing else. -/
def toAndFro : Table :=
  ⟨[(.browsing, [.go .searchSubmitted .search 1, .go .exit .exit 1]),
    (.eventBrowsing, [.go .exit .exit 1]),
    (.search, [.go .pageViewed .nextPage 1]),
    (.nextPage, [.back 1]),
    (.click, [.go .exit .exit 1]),
    (.addToCart, [.go .exit .exit 1]),
    (.purchase, [.go .exit .exit 1]),
    (.exit, [])]⟩

/-- What is ahead of the results of a search is only their next page. -/
lemma toAndFro_ahead {s u : State} (h : toAndFro.GetsTo s u) (hs : s = .search ∨ s = .nextPage) :
    u = .search ∨ u = .nextPage := by
  induction h with
  | refl => exact hs
  | @tail s u _ hnext ih =>
    obtain ⟨t, hmem, -, htarget⟩ := hnext
    have hrow : ∀ s, s = .search ∨ s = .nextPage → ∀ t ∈ toAndFro.transitions s,
        t.target = none ∨ t.target = some .nextPage := by
      rintro s (rfl | rfl) <;> decide
    rcases hrow s ih t hmem with hnone | hnext
    · exact absurd (hnone.symm.trans htarget) nofun
    · exact .inr (Option.some.inj (htarget.symm.trans hnext))

lemma toAndFro_reaches (s : State) (hs : s ≠ .outside) : toAndFro.Reaches s .exit := by
  have hnext : ∀ s u, u ∈ toAndFro.successors s → toAndFro.Reaches s u := fun _ _ h => .single h
  have hstart := hnext .browsing .exit (by decide +kernel)
  have hback := (hnext .nextPage .browsing (by decide +kernel)).trans hstart
  cases s with
  | outside => exact absurd rfl hs
  | browsing => exact hstart
  | search => exact (hnext .search .nextPage (by decide +kernel)).trans hback
  | nextPage => exact hback
  | exit => exact .refl
  | eventBrowsing | click | addToCart | purchase => exact hnext _ _ (by decide +kernel)

/-- The search finds a way out for every state of this table, but a visitor who has looked at a
second page never leaves. -/
theorem visits_caught :
    (∀ s ∈ State.all, s ≠ .exit → toAndFro.transitions s ≠ []) ∧
    (∀ s, ∀ t ∈ toAndFro.transitions s, t.weight > 0 ∧ t.weight.isFinite = true) ∧
    toAndFro.LeadsInside ∧ toAndFro.statesWithoutExit = [] ∧
    ∃ v : Visit, v.Reached toAndFro ∧ v.session.place = ⟨.nextPage, .search⟩ ∧
      ¬toAndFro.CanLeave v.session.place := by
  have hinside : toAndFro.LeadsInside := by
    intro s
    cases s <;> decide
  have hstates : toAndFro.statesWithoutExit = [] := statesWithoutExit_eq_nil toAndFro_reaches
  have hplace : ((Visit.start "sess" "user" 0 10).run toAndFro
      (Visit.seeded [1, 0])).session.place = ⟨.nextPage, .search⟩ := by
    decide +kernel
  have hcaught : toAndFro.Caught ⟨.nextPage, .search⟩ :=
    ⟨fun h => by simpa using toAndFro_ahead h (.inr rfl),
      fun h => by simpa using toAndFro_ahead h (.inl rfl), nofun, nofun⟩
  refine ⟨by decide, ?_, hinside, hstates, _, ⟨_, _, _, _, _, rfl⟩, hplace, ?_⟩
  · intro s
    cases s <;> decide +kernel
  · rw [hplace]
    exact hcaught.not_canLeave hinside

end Table

end ShopTraffic
