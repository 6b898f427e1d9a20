import Mathlib.Data.List.Chain
import Mathlib.Data.List.Perm.Basic
import ShopTraffic.Proofs.Simulation.Weave

/-!
In which order events enter the queue. The events of a session are made one after the other, and
each goes on from where the one before it led to. They need not enter the queue in this order: an
event can be overtaken by those that are made while it is on its way, and by no others. So the order
is kept for a session whose events are never made while another one of it is on its way.
-/

namespace ShopTraffic

open ShopTraffic.Random

/-- The event `e'` goes on from where `e` led to. -/
def Follows (e e' : Event) : Prop := e'.previous = e.state.entered

/-! ### Lists -/

/-- What a list of optional values loses and gains when an element is replaced. -/
lemma filterMap_set_perm {α β : Type} (f : α → Option β) {l : List α} {i : Nat} {a : α}
    (h : l[i]? = some a) (b : α) :
    ((f a).toList ++ (l.set i b).filterMap f).Perm ((f b).toList ++ l.filterMap f) := by
  have hcons : ∀ (x : α) (l : List α), (x :: l).filterMap f = (f x).toList ++ l.filterMap f := by
    intro x l
    rw [List.filterMap_cons]
    cases f x <;> rfl
  induction l generalizing i with
  | nil => cases h
  | cons x l ih =>
    cases i with
    | zero =>
      obtain rfl : x = a := Option.some.inj h
      rw [List.set_cons_zero, hcons, hcons]
      exact List.perm_append_comm_assoc _ _ _
    | succ i =>
      rw [List.set_cons_succ, hcons, hcons]
      exact ((List.perm_append_comm_assoc _ _ _).trans ((ih h).append_left _)).trans
        (List.perm_append_comm_assoc _ _ _)

/-- A sorted part of a sorted list that leaves nothing out below what it has is how the list
begins. -/
lemma prefix_of_sorted {l l' : List Nat} (h : l.Pairwise (· < ·)) (h' : l'.Pairwise (· < ·))
    (hsub : ∀ n ∈ l', n ∈ l) (hdown : ∀ n ∈ l', ∀ m ∈ l, m < n → m ∈ l') : l' <+: l := by
  induction l generalizing l' with
  | nil =>
    exact List.prefix_nil.mpr
      (List.eq_nil_iff_forall_not_mem.mpr fun n hn => List.not_mem_nil (hsub n hn))
  | cons a l ih =>
    obtain ⟨ha, hl⟩ := List.pairwise_cons.mp h
    cases l' with
    | nil => exact List.nil_prefix
    | cons b l' =>
      obtain ⟨hb, hl'⟩ := List.pairwise_cons.mp h'
      obtain rfl : a = b := by
        rcases List.mem_cons.mp (hsub b (List.mem_cons_self ..)) with e | hm
        · exact e.symm
        · have hlt := ha b hm
          rcases List.mem_cons.mp (hdown b (List.mem_cons_self ..) a (List.mem_cons_self ..) hlt)
            with e | hm'
          · exact e
          · exact absurd (hb a hm') (Nat.not_lt_of_lt hlt)
      refine (List.prefix_cons_inj a).mpr (ih hl hl' (fun n hn => ?_) fun n hn m hm hlt => ?_)
      · refine (List.mem_cons.mp (hsub n (List.mem_cons_of_mem _ hn))).resolve_left fun e => ?_
        exact absurd (hb n hn) (by rw [e]; exact Nat.lt_irrefl a)
      · refine (List.mem_cons.mp (hdown n (List.mem_cons_of_mem _ hn) m (List.mem_cons_of_mem _ hm)
          hlt)).resolve_left fun e => ?_
        exact absurd (ha m hm) (by rw [e]; exact Nat.lt_irrefl a)

namespace Weave

/-- The event with a number, and what was on its way when it was made. -/
def numbered (w : Weave) (n : Nat) : Made := (w.made[n]?).getD default

/-- Everything that the queue has taken, in the order in which it took it. -/
def arrived (w : Weave) : List Event := w.taken ++ w.sim.output.items

def story (w : Weave) (session : String) : List Event :=
  (w.made.map Made.event).filter (·.session = session)

/-- No event of the session was made while another one of it was on its way. -/
def Apart (w : Weave) (session : String) : Prop :=
  ∀ j < w.made.length, (w.numbered j).event.session = session →
    ∀ i ∈ (w.numbered j).unsent, (w.numbered i).event.session ≠ session

variable {w w' : Weave} {m : Move} {place n : Nat} {s s' : Stage} {now : Time} {user : String}

lemma unsent_setStage (hp : w.steps[place]? = some s) (hw : w'.steps = w.steps) (s' : Stage) :
    (s.number?.toList ++ (w'.setStage place s').unsent).Perm (s'.number?.toList ++ w.unsent) := by
  unfold unsent setStage
  rw [hw]
  exact filterMap_set_perm Stage.number? hp s'

lemma mem_unsent {p : Pending} {waits : Bool} (h : .sending n p waits ∈ w.steps) : n ∈ w.unsent :=
  List.mem_filterMap.mpr ⟨_, h, rfl⟩

lemma numbered_old {made : List Made} {x : Made} (hm : w'.made = made ++ [x]) (hw : w.made = made)
    (hn : n < w.made.length) : w'.numbered n = w.numbered n := by
  subst hw
  rw [numbered, numbered, hm, List.getElem?_append_left hn]

lemma numbered_new {x : Made} (hm : w'.made = w.made ++ [x]) : w'.numbered w.made.length = x := by
  rw [numbered, hm, List.getElem?_concat_length]
  rfl

lemma arrived_eq (ht : w'.taken = w.taken) (hi : w'.sim.output.items = w.sim.output.items) :
    w'.arrived = w.arrived := by
  rw [arrived, arrived, ht, hi]

/-! ### What is known of the queue -/

/-- The numbers of events tell what has become of them. -/
structure Ordered (w : Weave) : Prop where
  arrived : w.arrived = w.entered.map fun n => (w.numbered n).event
  sending : ∀ n p waits, .sending n p waits ∈ w.steps →
    n < w.made.length ∧ (w.numbered n).event = p.event
  distinct : (w.entered ++ w.unsent).Nodup
  bound : ∀ n ∈ w.entered, n < w.made.length
  /-- What is on its way was on its way whenever a later event was made. -/
  lingers : ∀ j < w.made.length, ∀ i < j, i ∈ w.unsent → i ∈ (w.numbered j).unsent
  settled : w.sim.output.closed = false → ∀ n < w.made.length, n ∈ w.entered ∨ n ∈ w.unsent
  overtaken : w.entered.Pairwise fun i j => j < i → j ∈ (w.numbered i).unsent
  complete : ∀ j ∈ w.entered, ∀ i < j, i ∉ (w.numbered j).unsent → i ∈ w.entered

/-- The queue takes nothing, and no event is made. An event may be refused. -/
lemma Ordered.kept (h : w.Ordered) (refused : List Nat) (hm : w'.made = w.made)
    (he : w'.entered = w.entered) (ha : w'.arrived = w.arrived)
    (hs : ∀ n p waits, .sending n p waits ∈ w'.steps → ∃ b, .sending n p b ∈ w.steps)
    (hu : (refused ++ w'.unsent).Perm w.unsent)
    (hc : w'.sim.output.closed = false → w.sim.output.closed = false ∧ refused = []) :
    w'.Ordered := by
  have hn : w'.numbered = w.numbered := funext fun n => by rw [numbered, numbered, hm]
  have hsub : ∀ i ∈ w'.unsent, i ∈ w.unsent :=
    fun i hi => hu.subset (List.mem_append_right _ hi)
  refine
    { arrived := by rw [ha, he, hn]; exact h.arrived
      sending := fun n p waits hs' => ?_
      distinct := ?_
      bound := by rw [he, hm]; exact h.bound
      lingers := by rw [hm, hn]; exact fun j hj i hi hx => h.lingers j hj i hi (hsub i hx)
      settled := fun hq n hlt => ?_
      overtaken := by rw [he, hn]; exact h.overtaken
      complete := by rw [he, hn]; exact h.complete }
  · obtain ⟨b, hb⟩ := hs n p waits hs'
    rw [hm, hn]
    exact h.sending n p b hb
  · have hp := (List.perm_append_comm_assoc refused w.entered w'.unsent).trans (hu.append_left _)
    rw [he]
    exact (List.nodup_append.mp (hp.nodup_iff.mpr h.distinct)).2.1
  · obtain ⟨hopen, rfl⟩ := hc hq
    rw [he]
    rw [hm] at hlt
    exact (h.settled hopen n hlt).imp_right fun hx => hu.symm.subset hx

/-- An event is made. -/
lemma Ordered.made (h : w.Ordered) {p : Pending}
    (hm : w'.made = w.made ++ [⟨p.event, w.unsent⟩]) (he : w'.entered = w.entered)
    (ha : w'.arrived = w.arrived) (hc : w'.sim.output.closed = w.sim.output.closed)
    (hs : ∀ n q waits, .sending n q waits ∈ w'.steps →
      .sending n q waits ∈ w.steps ∨ n = w.made.length ∧ q = p)
    (hu : w'.unsent.Perm (w.made.length :: w.unsent)) : w'.Ordered := by
  have hlen : w'.made.length = w.made.length + 1 := by rw [hm, List.length_append]; rfl
  have hold : ∀ n < w.made.length, w'.numbered n = w.numbered n :=
    fun n hn => numbered_old hm rfl hn
  have hnew : w'.numbered w.made.length = ⟨p.event, w.unsent⟩ := numbered_new hm
  have hbound : ∀ n ∈ w.unsent, n < w.made.length := by
    intro n hn
    obtain ⟨s, hs, hx⟩ := List.mem_filterMap.mp hn
    cases s with
    | sending k q waits =>
      obtain rfl : k = n := Option.some.inj hx
      exact (h.sending k q waits hs).1
    | _ => cases hx
  refine
    { arrived := ?_
      sending := fun n q waits hs' => ?_
      distinct := ?_
      bound := by rw [he, hlen]; exact fun n hn => Nat.lt_succ_of_lt (h.bound n hn)
      lingers := fun j hj i hi hx => ?_
      settled := fun hq n hn => ?_
      overtaken := ?_
      complete := ?_ }
  · rw [ha, he, h.arrived]
    exact List.map_congr_left fun n hn => by rw [hold n (h.bound n hn)]
  · rw [hlen]
    rcases hs n q waits hs' with hs' | ⟨rfl, rfl⟩
    · obtain ⟨hlt, hq⟩ := h.sending n q waits hs'
      exact ⟨Nat.lt_succ_of_lt hlt, by rw [hold n hlt]; exact hq⟩
    · exact ⟨Nat.lt_succ_self _, by rw [hnew]⟩
  · have hp := (hu.append_left w.entered).trans List.perm_middle
    rw [he, hp.nodup_iff, List.nodup_cons, List.mem_append]
    refine ⟨fun hx => ?_, h.distinct⟩
    exact Nat.lt_irrefl _ (hx.elim (h.bound _) (hbound _))
  · rw [hlen] at hj
    have hx : i ∈ w.unsent := by
      refine (List.mem_cons.mp (hu.subset hx)).resolve_left fun e => ?_
      omega
    rcases Nat.lt_succ_iff_lt_or_eq.mp hj with hj | rfl
    · rw [hold j hj]
      exact h.lingers j hj i hi hx
    · rw [hnew]
      exact hx
  · rw [hlen] at hn
    rw [he]
    rcases Nat.lt_succ_iff_lt_or_eq.mp hn with hn | rfl
    · rw [hc] at hq
      exact (h.settled hq n hn).imp_right fun hx => hu.symm.subset (List.mem_cons_of_mem _ hx)
    · exact .inr (hu.symm.subset (List.mem_cons_self ..))
  · rw [he]
    exact h.overtaken.imp_of_mem fun hi _ hx hlt => by
      rw [hold _ (h.bound _ hi)]
      exact hx hlt
  · rw [he]
    intro j hj i hi hx
    rw [hold j (h.bound j hj)] at hx
    exact h.complete j hj i hi hx

/-- The queue takes an event. It overtakes those that were made before it and are on their way: they
were on their way already when it was made. -/
lemma Ordered.entered (h : w.Ordered) {p : Pending} {waits : Bool}
    (hp : .sending n p waits ∈ w.steps) (hm : w'.made = w.made) (he : w'.entered = w.entered ++ [n])
    (ha : w'.arrived = w.arrived ++ [p.event]) (hc : w.sim.output.closed = false)
    (hs : ∀ n p waits, .sending n p waits ∈ w'.steps → .sending n p waits ∈ w.steps)
    (hu : (n :: w'.unsent).Perm w.unsent) : w'.Ordered := by
  have hn : w'.numbered = w.numbered := funext fun n => by rw [numbered, numbered, hm]
  obtain ⟨hlt, hevent⟩ := h.sending n p waits hp
  have hmem : n ∈ w.unsent := mem_unsent hp
  refine
    { arrived := ?_
      sending := by rw [hm, hn]; exact fun n p waits hs' => h.sending n p waits (hs n p waits hs')
      distinct := ?_
      bound := ?_
      lingers := ?_
      settled := fun _ k hk => ?_
      overtaken := ?_
      complete := ?_ }
  · rw [ha, he, hn, List.map_append, List.map_singleton, hevent, h.arrived]
  · rw [he, List.append_assoc, List.singleton_append]
    exact (hu.append_left _).nodup_iff.mpr h.distinct
  · rw [he, hm]
    intro k hk
    rcases List.mem_append.mp hk with hk | hk
    · exact h.bound k hk
    · rwa [List.mem_singleton.mp hk]
  · rw [hm, hn]
    exact fun j hj i hi hx => h.lingers j hj i hi (hu.subset (List.mem_cons_of_mem _ hx))
  · rw [hm] at hk
    rw [he]
    rcases h.settled hc k hk with hk | hk
    · exact .inl (List.mem_append_left _ hk)
    · exact (List.mem_cons.mp (hu.symm.subset hk)).imp_left fun e => by
        rw [e]
        exact List.mem_append_right _ (List.mem_singleton_self n)
  · rw [he, hn, List.pairwise_append]
    refine ⟨h.overtaken, List.pairwise_singleton _ _, fun i hi j hj hlt' => ?_⟩
    obtain rfl := List.mem_singleton.mp hj
    exact h.lingers i (h.bound i hi) j hlt' hmem
  · rw [he, hn]
    intro j hj i hi hx
    refine List.mem_append_left _ ?_
    rcases List.mem_append.mp hj with hj | hj
    · exact h.complete j hj i hi hx
    · obtain rfl := List.mem_singleton.mp hj
      refine (h.settled hc i (hi.trans hlt)).resolve_right fun hi' => hx ?_
      exact h.lingers j hlt i hi hi'

/-- A step goes on and the queue takes nothing: if there was an event on its way, it still is, or it
was refused. -/
lemma Ordered.next {w₁ : Weave} (h : w.Ordered) (hp : w.steps[place]? = some s)
    (hw : w₁.steps = w.steps) (hm : w₁.made = w.made) (he : w₁.entered = w.entered)
    (ha : w₁.arrived = w.arrived) (hc : w₁.sim.output.closed = w.sim.output.closed)
    (hs : ∀ n p b, s' = .sending n p b → ∃ b', s = .sending n p b')
    (hn : s'.number? = s.number? ∨ s'.number? = none ∧ w.sim.output.closed = true) :
    (w₁.setStage place s').Ordered := by
  have hu := unsent_setStage hp hw s'
  have hold : ∀ n p b, .sending n p b ∈ (w₁.setStage place s').steps →
      ∃ b', .sending n p b' ∈ w.steps := by
    intro n p b hmem
    rcases mem_setStage hw hmem with hmem | e
    · exact ⟨b, hmem⟩
    · obtain ⟨b', rfl⟩ := hs n p b e.symm
      exact ⟨b', List.mem_of_getElem? hp⟩
  rcases hn with e | ⟨e, hclosed⟩ <;> rw [e] at hu
  · have hu := (List.perm_append_left_iff _).mp hu
    exact h.kept [] hm he ha hold hu fun hq => ⟨hc.symm.trans hq, rfl⟩
  · refine h.kept s.number?.toList hm he ha hold hu fun hq => ?_
    exact absurd (hclosed.symm.trans (hc.symm.trans hq)) Bool.noConfusion

lemma Ordered.aside (h : w.Ordered) {sim : Simulation} (ho : sim.output = w.sim.output) :
    ({ w with sim } : Weave).Ordered :=
  h.kept [] rfl rfl (arrived_eq rfl (congrArg Queue.items ho)) (fun _ _ b hs => ⟨b, hs⟩)
    (List.Perm.refl _) fun hq => ⟨(congrArg Queue.closed ho).symm.trans hq, rfl⟩

lemma Ordered.perform (h : w.Ordered) (m : Move) : (w.perform m).Ordered := by
  have he := w.perform_effect m
  generalize w.perform m = w' at he ⊢
  cases he with
  | aside m sim hb => exact h.aside hb.output
  | lookUp user now sim hu => exact h.aside hu.output
  | sweep now sim hu => exact h.aside hu.output
  | find user now sim hu =>
    refine (h.aside hu.output).kept [] rfl rfl rfl (fun n p b hs => ⟨b, ?_⟩) ?_ fun hq => ⟨hq, rfl⟩
    · exact (List.mem_append.mp hs).resolve_right fun hs =>
        Stage.noConfusion (List.mem_singleton.mp hs)
    · rw [unsent, unsent, List.filterMap_append]
      exact .of_eq (List.append_nil _)
  | receive e output hpop =>
    obtain ⟨hi, hc, -⟩ := Queue.pop_some hpop
    refine h.kept [] rfl rfl ?_ (fun _ _ b hs => ⟨b, hs⟩) (List.Perm.refl _) fun hq =>
      ⟨hc.symm.trans hq, rfl⟩
    rw [Weave.arrived, Weave.arrived, hi, List.append_assoc, List.singleton_append]
  | close =>
    exact h.kept [] rfl rfl rfl (fun _ _ b hs => ⟨b, hs⟩) (List.Perm.refl _) fun hq =>
      Bool.noConfusion hq
  | stuck place user n now sim s hp ha hs =>
    have ho := (Simulation.advance_none ha).1.output
    have hnone : s.number? = none := by rcases hs with rfl | ⟨rfl, -⟩ <;> rfl
    refine h.next hp rfl rfl rfl (arrived_eq rfl (congrArg Queue.items ho))
      (congrArg Queue.closed ho) ?_ (.inl hnone)
    rintro n p b rfl
    cases hnone
  | move place user n now sim e hp ha =>
    have ho := (sim.countMove_undisturbed e).1.output.trans (Simulation.advance_some ha).1.output
    refine h.made (p := ⟨user, e⟩) rfl rfl (arrived_eq rfl (congrArg Queue.items ho))
      (congrArg Queue.closed ho) (fun k q waits hs => ?_) (unsent_setStage hp rfl _)
    refine (mem_setStage rfl hs).imp_right fun e => ?_
    cases e
    exact ⟨rfl, rfl⟩
  | leave place user session hp =>
    exact h.next hp rfl rfl rfl rfl rfl (fun _ _ _ e => Stage.noConfusion e) (.inl rfl)
  | wait place n p waits output hp hi hc =>
    refine h.next hp rfl rfl rfl (arrived_eq rfl hi) hc (fun k q b e => ?_) (.inl rfl)
    cases e
    exact ⟨waits, rfl⟩
  | offer place n p waits taken output hp hi hc ht =>
    cases taken with
    | false =>
      exact h.next hp rfl rfl rfl (arrived_eq rfl hi) hc (fun _ _ _ e => Stage.noConfusion e)
        (.inr ⟨rfl, ht⟩)
    | true =>
      refine h.entered (List.mem_of_getElem? hp) rfl rfl ?_ ht (fun k q b hs => ?_)
        (unsent_setStage hp rfl _)
      · rw [Weave.arrived, Weave.arrived, List.append_assoc]
        exact congrArg _ hi
      · exact (mem_setStage rfl hs).resolve_right fun e => Stage.noConfusion e
  | finish place p taken hp =>
    have ho := w.sim.finish_output p taken
    exact h.next hp rfl rfl rfl (arrived_eq rfl (congrArg Queue.items ho))
      (congrArg Queue.closed ho) (fun _ _ _ e => Stage.noConfusion e) (.inl rfl)

lemma start_ordered (T : Table) (ttl : Time) (capacity : Nat) (visitors : Visitors)
    (users engine payloads : Source) :
    (start T ttl capacity visitors users engine payloads).Ordered where
  arrived := rfl
  sending _ _ _ hs := absurd hs List.not_mem_nil
  distinct := List.nodup_nil
  bound _ hn := absurd hn List.not_mem_nil
  lingers j hj := absurd hj (Nat.not_lt_zero j)
  settled _ n hn := absurd hn (Nat.not_lt_zero n)
  overtaken := List.Pairwise.nil
  complete _ hj := absurd hj List.not_mem_nil

/-! ### What is known of a session -/

lemma story_append {x : Made} (hm : w'.made = w.made ++ [x]) (session : String) :
    w'.story session = w.story session ++ if x.event.session = session then [x.event] else [] := by
  rw [story, hm, List.map_append, List.filter_append, story]
  by_cases e : x.event.session = session <;> simp [e]

/-- The events of each session hang together, and its visitor is where the last of them led to. -/
structure Chained (w : Weave) : Prop where
  sane : w.Sane
  told : ∀ x ∈ w.made, ∃ n < w.sim.registry.created.size,
    (w.sim.registry.session n).id = x.event.session
  chain : ∀ session, (w.story session).IsChain Follows
  ends : ∀ n < w.sim.registry.created.size,
    ∀ e ∈ (w.story (w.sim.registry.session n).id).getLast?,
      e.state.entered = (w.sim.registry.session n).state.entered

/-- No event is made. A session that is new has none. -/
lemma Chained.still (h : w.Chained) (hg : w.Goes w') (hm : w'.made = w.made) : w'.Chained := by
  have hstory : w'.story = w.story := funext fun session => by rw [story, story, hm]
  refine
    { sane := h.sane.goes hg
      told := fun x hx => ?_
      chain := by rw [hstory]; exact h.chain
      ends := fun n hn e he => ?_ }
  · rw [hm] at hx
    obtain ⟨n, hn, hid⟩ := h.told x hx
    exact ⟨n, Nat.lt_of_lt_of_le hn hg.grows.size, (hg.grows.id n hn).trans hid⟩
  · rw [hstory] at he
    by_cases hold : n < w.sim.registry.created.size
    · rw [hg.grows.id n hold] at he
      rw [h.ends n hold e he, hg.stays hm n hold]
    · obtain ⟨hx, hid⟩ := List.mem_filter.mp (List.mem_of_getLast? he)
      obtain ⟨y, hy, rfl⟩ := List.mem_map.mp hx
      obtain ⟨k, hk, hid'⟩ := h.told y hy
      have hsame := ((hg.grows.id k hk).trans hid').trans (of_decide_eq_true hid)
      obtain rfl := hg.sound.number_eq (Nat.lt_of_lt_of_le hk hg.grows.size) hn hsame
      exact absurd hk hold

/-- The event of a move hangs together with the last one of its session. -/
lemma Chained.moved (h : w.Chained) (hg : w.Goes w') {s' : Session} {e : Event} {unsent : List Nat}
    (hn : n < w.sim.registry.created.size)
    (hs : (w.sim.registry.session n).Moved w.sim.table now s' e)
    (hr : w'.sim.registry = w.sim.registry.update n fun _ => s')
    (hm : w'.made = w.made ++ [⟨e, unsent⟩]) : w'.Chained := by
  have hid : e.session = (w.sim.registry.session n).id := hs.told.2.1.trans hs.id
  have hself : w'.sim.registry.session n = s' := by rw [hr, Registry.session_update_self hn]
  have hsize : w'.sim.registry.created.size = w.sim.registry.created.size := by
    rw [hr, Registry.update_size]
  refine
    { sane := h.sane.goes hg
      told := fun x hx => ?_
      chain := fun session => ?_
      ends := fun k hk e' he => ?_ }
  · rw [hm] at hx
    rcases List.mem_append.mp hx with hx | hx
    · obtain ⟨k, hk, hid⟩ := h.told x hx
      exact ⟨k, Nat.lt_of_lt_of_le hk hg.grows.size, (hg.grows.id k hk).trans hid⟩
    · rw [List.mem_singleton.mp hx]
      exact ⟨n, Nat.lt_of_lt_of_le hn hg.grows.size, (hg.grows.id n hn).trans hid.symm⟩
  · rw [story_append hm]
    split
    · next e' =>
      refine (h.chain session).append (List.isChain_singleton _) fun e₀ he₀ e₁ he₁ => ?_
      obtain rfl : e = e₁ := Option.some.inj he₁
      have hends := h.ends n hn e₀ (by rw [← hid, e']; exact he₀)
      exact (hs.told.2.2.2.1.trans hs.previous).trans hends.symm
    · rw [List.append_nil]
      exact h.chain session
  · rw [hsize] at hk
    rw [hg.grows.id k hk, story_append hm] at he
    by_cases hkn : k = n
    · subst hkn
      rw [if_pos hid, List.getLast?_concat] at he
      obtain rfl : e = e' := Option.some.inj he
      rw [hself, hs.told.2.2.1]
    · have hne : e.session ≠ (w.sim.registry.session k).id := fun e =>
        hkn (h.sane.sound.number_eq hk hn (e.symm.trans hid))
      rw [if_neg hne, List.append_nil] at he
      rw [hr, Registry.session_update_ne (Ne.symm hkn)]
      exact h.ends k hk e' he

lemma Chained.perform (h : w.Chained) (m : Move) : (w.perform m).Chained := by
  have hg := h.sane.perform_goes m
  have he := w.perform_effect m
  generalize w.perform m = w' at he hg ⊢
  cases he with
  | move place user n now sim e hp ha =>
    obtain ⟨-, -, s', hs, hr⟩ := Simulation.advance_some ha
    exact h.moved hg (h.sane.known _ (List.mem_of_getElem? hp)).1 hs hr rfl
  | _ => exact h.still hg rfl

lemma start_chained (T : Table) (ttl : Time) (capacity : Nat) (visitors : Visitors)
    (users engine payloads : Source) :
    (start T ttl capacity visitors users engine payloads).Chained where
  sane := start_sane T ttl capacity visitors users engine payloads
  told _ hx := absurd hx List.not_mem_nil
  chain _ := List.isChain_nil
  ends n hn := absurd hn (Nat.not_lt_zero n)

/-- Where the table leads inside, so does every event. -/
lemma Effect.inside (he : w.Effect m w') (ht : w.sim.table.LeadsInside)
    (h : ∀ x ∈ w.made, x.event.state ≠ .outside) : ∀ x ∈ w'.made, x.event.state ≠ .outside := by
  cases he with
  | move place user n now sim e hp ha =>
    intro x hx
    rcases List.mem_append.mp hx with hx | hx
    · exact h x hx
    · obtain ⟨-, -, s', hs, -⟩ := Simulation.advance_some ha
      rw [List.mem_singleton.mp hx]
      exact hs.inside ht
  | _ => exact h

/-! ### Runs -/

lemma run_inside {T : Table} (hT : T.LeadsInside) (ht : w.sim.table = T)
    (h : ∀ x ∈ w.made, x.event.state ≠ .outside) (moves : List Move) :
    ∀ x ∈ (w.run moves).made, x.event.state ≠ .outside := by
  induction moves generalizing w with
  | nil => exact h
  | cons m moves ih =>
    have he := w.perform_effect m
    exact ih (he.table.trans ht) (he.inside (ht ▸ hT) h)

lemma run_ordered (h : w.Ordered) (moves : List Move) : (w.run moves).Ordered := by
  induction moves generalizing w with
  | nil => exact h
  | cons m moves ih => exact ih (h.perform m)

lemma run_chained (h : w.Chained) (moves : List Move) : (w.run moves).Chained := by
  induction moves generalizing w with
  | nil => exact h
  | cons m moves ih => exact ih (h.perform m)

def numbersOf (w : Weave) (session : String) (numbers : List Nat) : List Nat :=
  numbers.filter fun n => (w.numbered n).event.session = session

lemma map_numbered (w : Weave) :
    (List.range w.made.length).map w.numbered = w.made := by
  refine List.ext_getElem (by simp) fun n _ hn => ?_
  simp [numbered, hn]

lemma story_eq (w : Weave) (session : String) :
    w.story session =
      (w.numbersOf session (List.range w.made.length)).map fun n => (w.numbered n).event := by
  conv_lhs => rw [story, ← w.map_numbered]
  rw [List.map_map, List.filter_map]
  rfl

/-- The events of a session that keep apart enter the queue in the order in which they are made. -/
lemma Ordered.prefix_of_apart (h : w.Ordered) {session : String} (ha : w.Apart session) :
    w.arrived.filter (·.session = session) <+: w.story session := by
  have hmem : ∀ {numbers : List Nat} {n : Nat}, n ∈ w.numbersOf session numbers ↔
      n ∈ numbers ∧ (w.numbered n).event.session = session := by
    simp [numbersOf]
  rw [h.arrived, List.filter_map, story_eq]
  refine List.IsPrefix.map _ (prefix_of_sorted (List.pairwise_lt_range.filter _) ?_ ?_ ?_)
  · have hne : w.entered.Pairwise (· ≠ ·) := (List.nodup_append.mp h.distinct).1
    refine List.Pairwise.imp_of_mem ?_ ((hne.and h.overtaken).filter _)
    intro i j hi hj hx
    obtain ⟨hi, hsi⟩ := hmem.mp hi
    obtain ⟨-, hsj⟩ := hmem.mp hj
    rcases Nat.lt_trichotomy i j with hlt | heq | hgt
    · exact hlt
    · exact absurd heq hx.1
    · exact absurd hsj (ha i (h.bound i hi) hsi j (hx.2 hgt))
  · intro n hn
    obtain ⟨hn, hs⟩ := hmem.mp hn
    exact hmem.mpr ⟨List.mem_range.mpr (h.bound n hn), hs⟩
  · intro j hj i hi hlt
    obtain ⟨hj, hsj⟩ := hmem.mp hj
    obtain ⟨-, hsi⟩ := hmem.mp hi
    refine hmem.mpr ⟨h.complete j hj i hlt fun hx => ?_, hsi⟩
    exact ha j (h.bound j hj) hsj i hx hsi

/-- **In which order events enter the queue.** The queue takes each event once at most. It takes an
event before one that was made earlier only if that one was on its way when this one was made, and
of the earlier ones it has taken all that were not; as long as it is not closed, what it has not
taken is on its way. The events of a session are made one after the other, each going on from where
the one before it led to. If no event of a session was made while another one of it was on its way,
then the queue has taken the session's events in the order in which they were made, leaving out none
but the last ones; so one goes on from the other there as well. If the table leads nobody outside,
an event goes on from the very place that the one before it led to. -/
theorem run_order (T : Table) (ttl : Time) (capacity : Nat) (visitors : Visitors)
    (users engine payloads : Source) (moves : List Move) :
    let w := (start T ttl capacity visitors users engine payloads).run moves
    w.arrived = w.entered.map (fun n => (w.numbered n).event) ∧
    w.entered.Nodup ∧ (∀ n ∈ w.entered, n < w.made.length) ∧
    w.entered.Pairwise (fun i j => j < i → j ∈ (w.numbered i).unsent) ∧
    (∀ j ∈ w.entered, ∀ i < j, i ∉ (w.numbered j).unsent → i ∈ w.entered) ∧
    (w.sim.output.closed = false → ∀ n < w.made.length, n ∈ w.entered ∨ n ∈ w.unsent) ∧
    (∀ session, (w.story session).IsChain Follows ∧
      (w.Apart session →
        w.arrived.filter (·.session = session) <+: w.story session ∧
        (w.arrived.filter (·.session = session)).IsChain Follows)) ∧
    (T.LeadsInside → ∀ x ∈ w.made, x.event.state.entered = x.event.state) := by
  intro w
  have h : w.Ordered := run_ordered (start_ordered T ttl capacity visitors users engine payloads) _
  have hc : w.Chained := run_chained (start_chained T ttl capacity visitors users engine payloads) _
  refine ⟨h.arrived, (List.nodup_append.mp h.distinct).1, h.bound, h.overtaken, h.complete,
    h.settled, fun session => ⟨hc.chain session, fun ha => ?_⟩, fun hT x hx => ?_⟩
  · obtain ⟨later, hsplit⟩ := h.prefix_of_apart ha
    have hchain := hc.chain session
    rw [← hsplit] at hchain
    exact ⟨⟨later, hsplit⟩, hchain.left_of_append⟩
  · refine if_neg (run_inside hT ?_ ?_ moves x hx)
    · rfl
    · exact fun x hx => absurd hx List.not_mem_nil

/-! ### A session in two steps at once -/

/-- A step whose visitor can move makes its event. -/
lemma go_makes (w : Weave) (place : Nat) {a : Action}
    (hp : w.steps[place]? = some (.found user n now))
    (ha : (w.sim.table.choose (w.sim.registry.session n).enter.state w.sim.engineSource).1.map
      (·.action) = some a) :
    ∃ sim e s', w.perform (.go place) =
        { w with sim, made := w.made ++ [Made.mk e w.unsent] }.setStage place
          (.sending w.made.length ⟨user, e⟩ false) ∧
      e.action = a ∧ (w.sim.registry.session n).Moved w.sim.table now s' e ∧
      w.sim.Undisturbed sim ∧ sim.registry = w.sim.registry.update n (fun _ => s') ∧
      sim.engineSource =
        ((w.sim.registry.session n).step w.sim.table now w.sim.engineSource).2 := by
  have hact := w.sim.advance_action n now
  rw [Session.step_action, ha] at hact
  rcases hs : w.sim.advance n now with ⟨sim, _ | e⟩ <;> rw [hs] at hact
  · cases hact
  · obtain ⟨hu, -, s', hm, hr⟩ := Simulation.advance_some hs
    obtain ⟨s₁, e₁, source, s₂, hstep, -, -, hsource, -⟩ := Simulation.advance_stepped hs
    refine ⟨sim.countMove e, e, s', ?_, Option.some.inj hact, hm,
      hu.trans (sim.countMove_undisturbed e).1, hr, ?_⟩
    · rw [perform_go hp, go_moved hs]
    · rw [hstep]
      exact hsource

/-- A step whose event finds room sends it. -/
lemma go_sends (w : Weave) (place : Nat) {p : Pending}
    (hp : w.steps[place]? = some (.sending n p false))
    (hc : w.sim.output.closed = false) (hr : w.sim.output.hasRoom = true) :
    w.perform (.go place) =
      { w with
        sim := { w.sim with output := w.sim.output.push p.event }
        entered := w.entered ++ [n] }.setStage place (.sent p true) := by
  have ho : w.sim.output.offer p.event false = (w.sim.output.push p.event, some true) := by
    simp [Queue.offer, hc, hr]
  rw [perform_go hp, go_offered ho]
  rfl

structure Begun (sim sim' : Simulation) : Prop where
  undisturbed : sim.Undisturbed sim'
  visitors : sim'.visitors = sim.visitors
  userSource : sim'.userSource = (sim.visitors.draw sim.userSource).2
  engineSource : sim'.engineSource = sim.engineSource

lemma begin_finds (w : Weave) (user : String) {r : Registry} {o : Origin}
    (hd : (w.sim.visitors.draw w.sim.userSource).1 = some user)
    (ho : w.sim.registry.obtain user now = (r, n, o)) :
    ∃ sim, w.perform (.begin now) = { w with sim, steps := w.steps ++ [.found user n now] } ∧
      Begun w.sim sim ∧ sim.registry = r := by
  rw [perform_begin (Prod.ext rfl hd), Simulation.obtain, Simulation.drawVisitor_registry, ho]
  cases o <;> exact ⟨_, rfl, ⟨⟨rfl, rfl, rfl, rfl⟩, rfl, rfl, rfl⟩, rfl⟩

/-- A shop with one visitor and room for two events. -/
def corner : Weave :=
  start .standard 10 2 ⟨#["user_1"]⟩ (.seeded 0) (.seeded 1) (.seeded 0)

def caller : Session := Session.begin (({ ttl := 10 } : Registry).newId "user_1" 0) "user_1" 0 10

/-- Two steps find the visitor. -/
lemma corner_twice :
    ∃ sim, corner.run [.begin 0, .begin 0] =
        { sim, steps := [.found "user_1" 0 0, .found "user_1" 0 0] } ∧
      sim.table = .standard ∧ sim.output = { capacity := 2 } ∧ sim.engineSource = .seeded 1 ∧
      sim.registry.session 0 = caller ∧ 0 < sim.registry.created.size := by
  let r₀ : Registry := { ttl := 10 }
  let r : Registry := (r₀.openSession "user_1" 0).1
  have hsession : r.session 0 = caller := Registry.session_openSession_new "user_1" 0
  have hlt : 0 < r.created.size := by simp [r, r₀, Registry.openSession_created_size]
  have hopened : r₀.obtain "user_1" 0 = (r, 0, .opened) := by
    simp [r, r₀, Registry.obtain]
  have hkept : r.obtain "user_1" 0 = (r.update 0 (·.touch 0 10), 0, .kept) := by
    have hsound : r.Sound := (Registry.sound_empty 10).openSession (by simp) 0
    have hn : r.sessions[r₀.newId "user_1" 0]? = some 0 := by
      rw [Registry.openSession_sessions, if_pos rfl]
      rfl
    have hl : (r.session 0).isLive 0 = true := by
      rw [hsession]
      decide
    have := hsound.obtain_live hn hl
    rwa [hsession] at this
  obtain ⟨sim₁, h₁, hb₁, hr₁⟩ := begin_finds corner "user_1" (by decide +kernel) hopened
  have hd₂ : (sim₁.visitors.draw sim₁.userSource).1 = some "user_1" := by
    rw [hb₁.visitors, hb₁.userSource]
    decide +kernel
  obtain ⟨sim₂, h₂, hb₂, hr₂⟩ := begin_finds { sim := sim₁, steps := [.found "user_1" 0 0] }
    "user_1" hd₂ ((congrArg (·.obtain "user_1" 0) hr₁).trans hkept)
  refine ⟨sim₂, ?_, hb₂.undisturbed.table.trans hb₁.undisturbed.table,
    hb₂.undisturbed.output.trans hb₁.undisturbed.output,
    hb₂.engineSource.trans hb₁.engineSource, ?_, ?_⟩
  · rw [run_cons, run_cons, run_nil, h₁]
    exact h₂
  · rw [hr₂, Registry.session_update_self hlt, hsession]
    rfl
  · rw [hr₂, Registry.update_size]
    exact hlt

/-- The first step makes the visitor click on a category. -/
lemma corner_first :
    ∃ sim e, corner.run [.begin 0, .begin 0, .go 0] =
        { sim, steps := [.sending 0 ⟨"user_1", e⟩ false, .found "user_1" 0 0]
          made := [⟨e, []⟩] } ∧
      sim.table = .standard ∧ sim.output = { capacity := 2 } ∧
      (sim.registry.session 0).state = .click ∧ (sim.registry.session 0).id = e.session ∧
      e.previous = .browsing ∧ e.state = .click ∧
      (Table.standard.choose .click sim.engineSource).1.map (·.action) = some .addToCart := by
  obtain ⟨sim₀, h₀, ht, ho, hsource, hs, hlt⟩ := corner_twice
  have hchoice : (sim₀.table.choose (sim₀.registry.session 0).enter.state
      sim₀.engineSource).1.map (·.action) = some .categoryClicked := by
    rw [ht, hs, hsource]
    decide +kernel
  obtain ⟨sim, e, s', h₁, ha, hm, hu, hr, hsource'⟩ :=
    go_makes { sim := sim₀, steps := [.found "user_1" 0 0, .found "user_1" 0 0] } 0 rfl hchoice
  dsimp only at hm hr hsource' hu
  have hself : sim.registry.session 0 = s' := by rw [hr, Registry.session_update_self hlt]
  have hclick : e.state = .click := by
    refine hm.state_eq ?_
    rw [ht, hs, ha]
    decide
  refine ⟨sim, e, ?_, hu.table.trans ht, hu.output.trans ho, ?_, ?_, ?_, hclick, ?_⟩
  · show (corner.run [.begin 0, .begin 0]).perform (.go 0) = _
    rw [h₀, h₁]
    rfl
  · rw [hself, ← hm.told.2.2.1, hclick]
  · rw [hself, hm.told.2.1]
  · rw [hm.told.2.2.2.1, hm.previous, hs]
    rfl
  · rw [hsource', ht, hs, hsource]
    decide +kernel

/-- The second step makes the visitor put something into the cart. -/
lemma go_second (w : Weave) (hp : w.steps[1]? = some (.found "user_1" 0 0))
    (ht : w.sim.table = .standard) (hs : (w.sim.registry.session 0).state = .click)
    (ha : (Table.standard.choose .click w.sim.engineSource).1.map (·.action) = some .addToCart) :
    ∃ sim e, w.perform (.go 1) =
        { w with sim, made := w.made ++ [Made.mk e w.unsent] }.setStage 1
          (.sending w.made.length ⟨"user_1", e⟩ false) ∧
      sim.output = w.sim.output ∧ e.session = (w.sim.registry.session 0).id ∧
      e.previous = .click ∧ e.state = .addToCart := by
  have henter : (w.sim.registry.session 0).enter.state = .click := by
    simp [Session.enter, hs]
  obtain ⟨sim, e, s', h, hact, hm, hu, -, -⟩ := go_makes w 1 hp (by rw [ht, henter]; exact ha)
  refine ⟨sim, e, h, hu.output, hm.told.2.1.trans hm.id, ?_, hm.state_eq ?_⟩
  · exact (hm.told.2.2.2.1.trans hm.previous).trans henter
  · rw [ht, henter, hact]
    decide

/-- The second step makes its event while that of the first is on its way, and sends it before. -/
theorem run_order_overtaken :
    let w := corner.run [.begin 0, .begin 0, .go 0, .go 1, .go 1, .go 0]
    ∃ e e', w.made.map Made.event = [e, e'] ∧ w.arrived = [e', e] ∧ e.session = e'.session ∧
      e'.previous = e.state ∧ e.previous ≠ e'.state := by
  obtain ⟨sim₁, e, h₁, ht, ho, hs, hid, hp, hclick, ha⟩ := corner_first
  let w₁ : Weave :=
    { sim := sim₁, steps := [.sending 0 ⟨"user_1", e⟩ false, .found "user_1" 0 0]
      made := [⟨e, []⟩] }
  obtain ⟨sim₂, e', h₂, ho₂, hid₂, hp₂, hst₂⟩ := go_second w₁ rfl ht hs ha
  have ho₂ : sim₂.output = { capacity := 2 } := ho₂.trans ho
  let w₂ : Weave :=
    { sim := sim₂
      steps := [.sending 0 ⟨"user_1", e⟩ false, .sending 1 ⟨"user_1", e'⟩ false]
      made := [⟨e, []⟩, ⟨e', [0]⟩] }
  let w₃ : Weave :=
    { w₂ with
      sim := { sim₂ with output := sim₂.output.push e' }
      steps := [.sending 0 ⟨"user_1", e⟩ false, .sent ⟨"user_1", e'⟩ true]
      entered := [1] }
  have h₃ : w₂.perform (.go 1) = w₃ :=
    go_sends w₂ 1 rfl (congrArg Queue.closed ho₂) ((congrArg Queue.hasRoom ho₂).trans rfl)
  have ho₃ : w₃.sim.output = ({ capacity := 2 } : Queue Event).push e' :=
    congrArg (Queue.push · e') ho₂
  let w₄ : Weave :=
    { w₃ with
      sim := { w₃.sim with output := w₃.sim.output.push e }
      steps := [.sent ⟨"user_1", e⟩ true, .sent ⟨"user_1", e'⟩ true]
      entered := [1, 0] }
  have h₄ : w₃.perform (.go 0) = w₄ :=
    go_sends w₃ 0 rfl (congrArg Queue.closed ho₃) ((congrArg Queue.hasRoom ho₃).trans rfl)
  have hrun : corner.run [.begin 0, .begin 0, .go 0, .go 1, .go 1, .go 0] = w₄ :=
    calc corner.run [.begin 0, .begin 0, .go 0, .go 1, .go 1, .go 0]
      _ = ((w₁.perform (.go 1)).perform (.go 1)).perform (.go 0) :=
        congrArg (fun w => ((w.perform (.go 1)).perform (.go 1)).perform (.go 0)) h₁
      _ = (w₂.perform (.go 1)).perform (.go 0) := by rw [h₂]; rfl
      _ = w₃.perform (.go 0) := by rw [h₃]
      _ = w₄ := h₄
  rw [hrun]
  refine ⟨e, e', rfl, ?_, hid.symm.trans hid₂.symm, hp₂.trans hclick.symm, ?_⟩
  · exact congrArg (fun q => [] ++ (Queue.push q e).items) ho₃
  · rw [hp, hst₂]
    decide

/-- The second step makes its event when that of the first has been sent. -/
theorem run_order_kept :
    let w := corner.run [.begin 0, .begin 0, .go 0, .go 0, .go 1, .go 1]
    ∃ e e', w.made.map Made.event = [e, e'] ∧ w.Apart e.session ∧
      w.arrived.filter (·.session = e.session) = [e, e'] ∧ e'.previous = e.state := by
  obtain ⟨sim₁, e, h₁, ht, ho, hs, hid, -, hclick, ha⟩ := corner_first
  let w₁ : Weave :=
    { sim := sim₁, steps := [.sending 0 ⟨"user_1", e⟩ false, .found "user_1" 0 0]
      made := [⟨e, []⟩] }
  let w₂ : Weave :=
    { w₁ with
      sim := { sim₁ with output := sim₁.output.push e }
      steps := [.sent ⟨"user_1", e⟩ true, .found "user_1" 0 0]
      entered := [0] }
  have h₂ : w₁.perform (.go 0) = w₂ :=
    go_sends w₁ 0 rfl (congrArg Queue.closed ho) ((congrArg Queue.hasRoom ho).trans rfl)
  obtain ⟨sim₃, e', h₃, ho₃, hid₃, -, -⟩ := go_second w₂ rfl ht hs ha
  have ho₃ : sim₃.output = ({ capacity := 2 } : Queue Event).push e :=
    ho₃.trans (congrArg (Queue.push · e) ho)
  let w₃ : Weave :=
    { w₂ with
      sim := sim₃
      steps := [.sent ⟨"user_1", e⟩ true, .sending 1 ⟨"user_1", e'⟩ false]
      made := [⟨e, []⟩, ⟨e', []⟩] }
  let w₄ : Weave :=
    { w₃ with
      sim := { sim₃ with output := sim₃.output.push e' }
      steps := [.sent ⟨"user_1", e⟩ true, .sent ⟨"user_1", e'⟩ true]
      entered := [0, 1] }
  have h₄ : w₃.perform (.go 1) = w₄ :=
    go_sends w₃ 1 rfl (congrArg Queue.closed ho₃) ((congrArg Queue.hasRoom ho₃).trans rfl)
  have hrun : corner.run [.begin 0, .begin 0, .go 0, .go 0, .go 1, .go 1] = w₄ :=
    calc corner.run [.begin 0, .begin 0, .go 0, .go 0, .go 1, .go 1]
      _ = ((w₁.perform (.go 0)).perform (.go 1)).perform (.go 1) :=
        congrArg (fun w => ((w.perform (.go 0)).perform (.go 1)).perform (.go 1)) h₁
      _ = (w₂.perform (.go 1)).perform (.go 1) := by rw [h₂]
      _ = w₃.perform (.go 1) := by rw [h₃]; rfl
      _ = w₄ := h₄
  have hsame : e'.session = e.session := hid₃.trans hid
  have harrived : w₄.arrived.filter (·.session = e.session) = [e, e'] := by
    have h : w₄.arrived = [e, e'] := congrArg (fun q => [] ++ (Queue.push q e').items) ho₃
    simp [h, hsame]
  have hapart : w₄.Apart e.session := by
    intro j _ _ i hi
    have hnone : (w₄.numbered j).unsent = [] := by
      rcases j with _ | _ | j <;> rfl
    rw [hnone] at hi
    exact absurd hi List.not_mem_nil
  obtain ⟨-, -, -, -, -, -, hsession, hinside⟩ := run_order .standard 10 2 ⟨#["user_1"]⟩ (.seeded 0)
    (.seeded 1) (.seeded 0) [.begin 0, .begin 0, .go 0, .go 0, .go 1, .go 1]
  change ∀ session, _ ∧ ((corner.run _).Apart session → _ ∧
      ((corner.run _).arrived.filter (·.session = session)).IsChain Follows) at hsession
  change _ → ∀ x ∈ (corner.run _).made, _ at hinside
  rw [hrun] at hsession hinside ⊢
  have hchain := ((hsession e.session).2 hapart).2
  rw [harrived] at hchain
  have hfollows : Follows e e' := List.isChain_pair.mp hchain
  exact ⟨e, e', rfl, hapart, harrived, hfollows.trans
    (hinside Table.standard_leadsInside ⟨e, []⟩ (List.mem_cons_self ..))⟩

end Weave

end ShopTraffic
