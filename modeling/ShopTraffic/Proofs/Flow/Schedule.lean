import ShopTraffic.Proofs.Flow.Grace

/-!
The schedule that the program itself follows. It makes a move while there is one, and otherwise lets
time pass up to the next deadline; so all that it does is a run, and one in which no answer of the
sink is overlooked.
-/

namespace ShopTraffic

lemma sooner_le_left {a b : Option Instant} {t : Instant} (h : ∃ x, a = some x ∧ x ≤ t) :
    ∃ x, sooner a b = some x ∧ x ≤ t := by
  obtain ⟨x, rfl, hx⟩ := h
  cases b with
  | none => exact ⟨x, rfl, hx⟩
  | some y => exact ⟨min x y, rfl, (min_le_left x y).trans hx⟩

lemma sooner_le_right {a b : Option Instant} {t : Instant} (h : ∃ x, b = some x ∧ x ≤ t) :
    ∃ x, sooner a b = some x ∧ x ≤ t := by
  obtain ⟨x, rfl, hx⟩ := h
  cases a with
  | none => exact ⟨x, rfl, hx⟩
  | some y => exact ⟨min y x, rfl, (min_le_right y x).trans hx⟩

namespace Outlets

variable {o : Outlets} {k : Nat} {e : Event} {due : Instant} {r : Except SinkError Unit}

def wake : Outlet → Option Instant
  | .publishing _ (some (due, _)) => some (wholeMs due)
  | _ => none

lemma deadline_eq (o : Outlets) :
    o.deadline = o.workers.toList.foldl (fun d x => sooner d (wake x)) none := by
  unfold deadline
  rw [← Array.foldl_toList]
  congr 1
  funext d x
  rcases x with _ | ⟨e, _ | ⟨due, r⟩⟩ | _ | _ | _
  case publishing.some => rfl
  all_goals cases d <;> rfl

lemma foldl_sooner_le {xs : List Outlet} {t : Instant} :
    ∀ d, ((∃ x, d = some x ∧ x ≤ t) ∨ ∃ w ∈ xs, ∃ x, wake w = some x ∧ x ≤ t) →
      ∃ x, xs.foldl (fun d w => sooner d (wake w)) d = some x ∧ x ≤ t := by
  induction xs with
  | nil =>
    rintro d (h | ⟨w, hw, -⟩)
    · exact h
    · cases hw
  | cons a xs ih =>
    rintro d (h | ⟨w, hw, h⟩)
    · exact ih _ (.inl (sooner_le_left h))
    · rcases List.mem_cons.mp hw with rfl | hw
      · exact ih _ (.inl (sooner_le_right h))
      · exact ih _ (.inr ⟨w, hw, h⟩)

/-- The sink workers have a deadline no later than any answer is due. -/
lemma deadline_le (h : o.worker k = .publishing e (some (due, r))) :
    ∃ x, o.deadline = some x ∧ x ≤ wholeMs due := by
  have hk := getElem?_worker h Outlet.noConfusion
  rw [deadline_eq]
  exact foldl_sooner_le none (.inr ⟨_, Array.mem_toList_iff.mpr (Array.mem_of_getElem? hk), _, rfl,
    le_rfl⟩)

/-- Nobody could move, so no answer is there yet. -/
lemma lt_of_choose {q : Queue Event} {now : Instant} (hc : o.choose q now = none)
    (h : o.worker k = .publishing e (some (due, r))) : now < wholeMs due := by
  have hk := getElem?_worker h Outlet.noConfusion
  have hs : k < o.workers.size := (Array.getElem?_eq_some_iff.mp hk).1
  have hm := List.findSome?_eq_none_iff.mp hc k (List.mem_range.mpr hs)
  have ha := List.find?_eq_none.mp hm (.answer k) List.mem_cons_self
  simp only [enabled, h, decide_eq_true_eq] at ha
  exact Nat.not_le.mp ha

end Outlets

namespace Pipeline

variable {p : Pipeline}

lemma perform_instant (p : Pipeline) (m : Move) : (p.perform m).instant = p.instant := by
  unfold perform
  split
  · rfl
  next hen =>
  rw [Bool.not_eq_true, Bool.not_eq_false'] at hen
  cases m with
  | close => exact (onClose_spec hen).1.load.instant
  | load m => exact p.load.perform_instant m
  | outlet | armSweeper | sweep | endSweeper | armReporter | report | endReporter => rfl

lemma act_pass {t : Instant} (h : p.instant ≤ t) :
    p.act (.pass (t - p.instant)) = clockwork.setInstant t p := by
  have : p.load.instant + (t - p.load.instant) = t := Nat.add_sub_cancel' h
  simp only [act, instant, this]
  rfl

lemma outlets_choose (h : p.choose = none) : p.outlets.choose p.queue p.instant = none := by
  unfold choose at h
  split at h
  · cases h
  · rw [Option.or_eq_none_iff, Option.or_eq_none_iff, Option.map_eq_none_iff,
      Option.map_eq_none_iff] at h
    exact h.2.1

/-- When nobody can move, time may pass up to the next deadline. -/
lemma punctual_pass {t : Instant} (hi : p.instant ≤ t) (hc : p.choose = none)
    (ht : ∀ d, p.deadline = some d → t ≤ max d p.instant) : p.Punctual (.pass (t - p.instant)) := by
  intro k e due r hk
  have hnow : p.instant < wholeMs due := Outlets.lt_of_choose (outlets_choose hc) hk
  obtain ⟨d, hd, hle⟩ : ∃ d, p.deadline = some d ∧ d ≤ wholeMs due :=
    sooner_le_right (sooner_le_right (sooner_le_left (Outlets.deadline_le hk)))
  rw [Nat.add_sub_cancel' hi]
  exact (ht d hd).trans (max_le hle hnow.le)

/-- Left to itself, a pipeline can get from `p` to `q`, and no answer is overlooked on the way. -/
def LeadsTo (p q : Pipeline) : Prop :=
  ∃ acts, q = p.run acts ∧ Along Pipeline.act Punctual p acts ∧
    ∀ a ∈ acts, (∃ m, a = .move m) ∨ ∃ t, a = .pass t

lemma leadsTo_refl (p : Pipeline) : p.LeadsTo p := ⟨[], rfl, trivial, nofun⟩

lemma leadsTo_move {q : Pipeline} {m : Move} (h : (p.perform m).LeadsTo q) : p.LeadsTo q := by
  obtain ⟨acts, hq, ha, hs⟩ := h
  refine ⟨.move m :: acts, hq, ⟨trivial, ha⟩, fun a h => ?_⟩
  rcases List.mem_cons.mp h with rfl | h
  · exact .inl ⟨m, rfl⟩
  · exact hs a h

lemma leadsTo_pass {q : Pipeline} {t : Instant} (hi : p.instant ≤ t) (hc : p.choose = none)
    (ht : ∀ d, p.deadline = some d → t ≤ max d p.instant)
    (h : (clockwork.setInstant t p).LeadsTo q) : p.LeadsTo q := by
  obtain ⟨acts, hq, ha, hs⟩ := h
  rw [← act_pass hi] at hq ha
  refine ⟨.pass (t - p.instant) :: acts, hq, ⟨punctual_pass hi hc ht, ha⟩, fun a h => ?_⟩
  rcases List.mem_cons.mp h with rfl | h
  · exact .inr ⟨_, rfl⟩
  · exact hs a h

/-- **Whatever the program does is a run.** -/
theorem clockwork_leadsTo (done : Pipeline → Bool) {limit : Option Instant} (fuel : Nat)
    (p : Pipeline) (hl : ∀ l, limit = some l → p.instant ≤ l) :
    p.LeadsTo (clockwork.run done limit fuel p) := by
  induction fuel generalizing p with
  | zero => exact p.leadsTo_refl
  | succ fuel ih =>
    unfold Clockwork.run
    split
    · exact p.leadsTo_refl
    split
    · next m _ => exact leadsTo_move (ih _ fun l h => (p.perform_instant m).trans_le (hl l h))
    next hc =>
    split
    · next d l hd =>
      have hd : p.deadline = some d := hd
      split
      · next hlt =>
        refine leadsTo_pass (le_max_right _ _) hc (fun x hx => ?_) (ih _ fun l' h => ?_)
        · obtain rfl : d = x := Option.some.inj (hd.symm.trans hx)
          exact le_rfl
        · obtain rfl : l = l' := Option.some.inj h
          exact max_le hlt.le (hl l rfl)
      · next hlt =>
        refine leadsTo_pass (hl l rfl) hc (fun x hx => ?_) (leadsTo_refl _)
        obtain rfl : d = x := Option.some.inj (hd.symm.trans hx)
        exact (Nat.not_lt.mp hlt).trans (le_max_left _ _)
    · next d hd =>
      have hd : p.deadline = some d := hd
      refine leadsTo_pass (le_max_right _ _) hc (fun x hx => ?_) (ih _ nofun)
      obtain rfl : d = x := Option.some.inj (hd.symm.trans hx)
      exact le_rfl
    · next l hd =>
      have hd : p.deadline = none := hd
      exact leadsTo_pass (hl l rfl) hc (fun x hx => by cases hd.symm.trans hx) (leadsTo_refl _)
    · exact p.leadsTo_refl

/-- Letting time pass is a run. -/
theorem advance_leadsTo (p : Pipeline) (span : Instant) : p.LeadsTo (p.advance span) :=
  clockwork_leadsTo _ _ p fun l h => by
    obtain rfl : p.instant + span = l := Option.some.inj h
    exact Nat.le_add_right _ _

/-- A shutdown is a run that begins by asking for it. -/
theorem shutdown_leadsTo {q : Pipeline} (hc : p.closing = .unasked) (h : p.shutdown = some q) :
    (p.act .shutdown).LeadsTo q := by
  obtain ⟨p', hp, rfl⟩ := Option.map_eq_some_iff.mp h
  have ha : p.act .shutdown = p' := by
    simp only [act, hc, hp]
    rfl
  rw [ha]
  exact clockwork_leadsTo _ _ p' fun _ h => absurd h.symm (Option.some_ne_none _)

end Pipeline

end ShopTraffic
