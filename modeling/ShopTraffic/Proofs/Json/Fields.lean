import Mathlib.Data.List.Induction
import Mathlib.Tactic.Common
import ShopTraffic.Event

/-!
Looking attributes up. The members of an object stand in the order of their names, so that each name
is there once; of the members that are written under one name, the last is what is found there.
-/

namespace ShopTraffic

namespace Fields

variable {fs : Fields} {name key : String} {v : Json}

def Sorted (fs : Fields) : Prop := fs.Pairwise fun m m' => m.1 < m'.1

instance (fs : Fields) : Decidable (Sorted fs) := inferInstanceAs (Decidable (List.Pairwise _ fs))

/-- What was written last under a name. -/
def last? (members : List (String × Json)) (name : String) : Option Json :=
  members.reverse.lookup name

lemma lookup_cons (m : String × Json) (l : List (String × Json)) (key : String) :
    (m :: l).lookup key = if key = m.1 then some m.2 else l.lookup key := by
  obtain ⟨k, w⟩ := m
  rw [List.lookup_cons]
  by_cases h : key = k
  · simp [h]
  · rw [if_neg h, beq_false_of_ne h]

lemma get?_insert (fs : Fields) (name : String) (v : Json) (key : String) :
    (fs.insert name v).get? key = if key = name then some v else fs.get? key := by
  unfold get?
  induction fs with
  | nil => exact lookup_cons _ _ _
  | cons m fs ih =>
    obtain ⟨k, w⟩ := m
    rw [insert]
    by_cases hlt : name < k
    · rw [if_pos hlt, lookup_cons]
    by_cases hsame : k = name
    · rw [if_neg hlt, if_pos hsame, lookup_cons, lookup_cons, hsame]
      split <;> rfl
    · rw [if_neg hlt, if_neg hsame, lookup_cons, lookup_cons, ih]
      by_cases hk : key = k
      · rw [if_pos hk, if_pos hk, if_neg fun hname => hsame (hk.symm.trans hname)]
      · rw [if_neg hk, if_neg hk]

lemma last?_append (members more : List (String × Json)) (key : String) :
    last? (members ++ more) key = (last? more key).or (last? members key) := by
  rw [last?, List.reverse_append, List.lookup_append]
  rfl

lemma last?_singleton (m : String × Json) (key : String) :
    last? [m] key = if key = m.1 then some m.2 else none :=
  lookup_cons m [] key

/-- **The last member under a name is what is found there.** -/
lemma get?_insertAll (fs : Fields) (members : List (String × Json)) (key : String) :
    (fs.insertAll members).get? key = (last? members key).or (fs.get? key) := by
  induction members using List.reverseRecOn with
  | nil => rfl
  | append_singleton members m ih =>
    have hwrite : fs.insertAll (members ++ [m]) = (fs.insertAll members).insert m.1 m.2 := by
      simp [insertAll]
    rw [hwrite, get?_insert, last?_append, last?_singleton, ih]
    split <;> rfl

/-! ### Each name is there once -/

lemma mem_insert {m : String × Json} (h : m ∈ fs.insert name v) : m = (name, v) ∨ m ∈ fs := by
  induction fs with
  | nil => exact .inl (List.mem_singleton.mp h)
  | cons m' fs ih =>
    rw [insert] at h
    split_ifs at h
    · exact (List.mem_cons.mp h)
    · exact (List.mem_cons.mp h).imp_right (List.mem_cons_of_mem _)
    · rcases List.mem_cons.mp h with rfl | h
      · exact .inr (List.mem_cons_self ..)
      · exact (ih h).imp_right (List.mem_cons_of_mem _)

lemma Sorted.insert (h : Sorted fs) : Sorted (fs.insert name v) := by
  induction fs with
  | nil => exact List.pairwise_singleton _ _
  | cons m fs ih =>
    obtain ⟨hm, hfs⟩ := List.pairwise_cons.mp h
    rw [Fields.insert]
    split_ifs with hlt hsame
    · refine List.pairwise_cons.mpr ⟨fun m' hm' => ?_, h⟩
      rcases List.mem_cons.mp hm' with rfl | hm'
      · exact hlt
      · exact String.lt_trans hlt (hm m' hm')
    · exact List.pairwise_cons.mpr ⟨fun m' hm' => hsame ▸ hm m' hm', hfs⟩
    · refine List.pairwise_cons.mpr ⟨fun m' hm' => ?_, ih hfs⟩
      rcases mem_insert hm' with rfl | hm'
      · by_contra hle
        exact hsame (String.le_antisymm (String.not_lt.mp hlt) (String.not_lt.mp hle))
      · exact hm m' hm'

lemma Sorted.insertAll (h : Sorted fs) (members : List (String × Json)) :
    Sorted (fs.insertAll members) := by
  induction members generalizing fs with
  | nil => exact h
  | cons m members ih => exact ih h.insert

lemma sorted_ofList (members : List (String × Json)) : Sorted (ofList members) :=
  Sorted.insertAll .nil members

lemma mem_insertAll {m : String × Json} {members : List (String × Json)}
    (h : m ∈ fs.insertAll members) : m ∈ members ∨ m ∈ fs := by
  induction members generalizing fs with
  | nil => exact .inr h
  | cons m' members ih =>
    rcases ih h with hm | hm
    · exact .inl (List.mem_cons_of_mem _ hm)
    · rcases mem_insert hm with rfl | hm
      · exact .inl (List.mem_cons_self ..)
      · exact .inr hm

lemma insert_last (h : ∀ m ∈ fs, m.1 < name) : fs.insert name v = fs ++ [(name, v)] := by
  induction fs with
  | nil => rfl
  | cons m fs ih =>
    obtain ⟨hm, hfs⟩ := List.forall_mem_cons.mp h
    rw [insert, if_neg (String.lt_asymm hm), if_neg (String.ne_of_lt hm), ih hfs, List.cons_append]

/-- Members that stand in order are written as they stand. -/
lemma Sorted.ofList_eq (h : Sorted fs) : ofList fs = fs := by
  induction fs using List.reverseRecOn with
  | nil => rfl
  | append_singleton fs m ih =>
    obtain ⟨hfs, -, hlast⟩ := List.pairwise_append.mp h
    have hwrite : ofList (fs ++ [m]) = (ofList fs).insert m.1 m.2 := by
      simp [ofList, Fields.insertAll]
    rw [hwrite, ih hfs]
    exact insert_last fun m' hm' => hlast m' hm' m (List.mem_singleton_self m)

lemma insert_perm (h : ∀ m ∈ fs, m.1 ≠ name) : (fs.insert name v).Perm ((name, v) :: fs) := by
  induction fs with
  | nil => exact .refl _
  | cons m fs ih =>
    obtain ⟨hm, hfs⟩ := List.forall_mem_cons.mp h
    rw [insert]
    split_ifs with hlt
    · exact .refl _
    · exact ((ih hfs).cons m).trans (.swap (name, v) m fs)

lemma insertAll_perm {members : List (String × Json)}
    (h : ((fs ++ members).map (·.1)).Nodup) : (fs.insertAll members).Perm (fs ++ members) := by
  induction members generalizing fs with
  | nil => rw [List.append_nil]; exact .refl _
  | cons m members ih =>
    have hmiddle : (fs ++ m :: members).Perm (m :: (fs ++ members)) := List.perm_middle
    have hnew : ∀ m' ∈ fs, m'.1 ≠ m.1 := fun m' hm' e => by
      have hnodup := (List.nodup_cons.mp ((hmiddle.map (·.1)).nodup_iff.mp h)).1
      exact hnodup (List.mem_map.mpr ⟨m', List.mem_append_left _ hm', e⟩)
    have hwritten : (fs.insert m.1 m.2 ++ members).Perm (fs ++ m :: members) :=
      ((insert_perm hnew).append_right members).trans hmiddle.symm
    exact (ih ((hwritten.map (·.1)).nodup_iff.mpr h)).trans hwritten

/-- **The order of writing does not matter** where no name is written twice. -/
lemma ofList_congr_perm {members more : List (String × Json)} (h : members.Perm more)
    (hnames : (members.map (·.1)).Nodup) : ofList members = ofList more := by
  have hwritten : ∀ {members : List (String × Json)}, (members.map (·.1)).Nodup →
      (ofList members).Perm members := fun h => insertAll_perm h
  have hperm := ((hwritten hnames).trans h).trans
    (hwritten ((h.map (·.1)).nodup_iff.mp hnames)).symm
  exact List.Perm.eq_of_pairwise (fun _ _ _ _ hlt hgt => absurd hgt (String.lt_asymm hlt))
    (sorted_ofList members) (sorted_ofList more) hperm

/-- Where each name is there once, the last member under it is the only one. -/
lemma Sorted.last?_eq (h : Sorted fs) (key : String) : last? fs key = fs.get? key := by
  induction fs with
  | nil => rfl
  | cons m fs ih =>
    obtain ⟨hm, hfs⟩ := List.pairwise_cons.mp h
    rw [← List.singleton_append, last?_append, last?_singleton, ih hfs, List.singleton_append, get?,
      get?, lookup_cons]
    split_ifs with hkey
    · have hnone : fs.lookup key = none := by
        refine List.lookup_eq_none_iff.mpr fun m' hm' => ?_
        rw [hkey]
        exact bne_iff_ne.mpr (String.ne_of_lt (hm m' hm'))
      rw [hnone]
      rfl
    · exact Option.or_none

lemma last?_filter {p : String → Bool} (hp : p key = true) (members : List (String × Json)) :
    last? (members.filter fun m => p m.1) key = last? members key := by
  rw [last?, ← List.filter_reverse, last?]
  induction members.reverse with
  | nil => rfl
  | cons m l ih =>
    rw [List.filter_cons, lookup_cons]
    split_ifs with hm hkey hkey
    · rw [lookup_cons, if_pos hkey]
    · rw [lookup_cons, if_neg hkey, ih]
    · exact absurd (hkey ▸ hp) hm
    · exact ih

end Fields

/-- What an attribute of an event is, unless its name is reserved. -/
lemma Event.get?_withExtra {e : Event} (he : e.extra = []) {key : String}
    (hkey : isReserved key = false) (members : List (String × Json)) :
    (e.withExtra (Fields.ofList members)).extra.get? key = Fields.last? members key := by
  have hfilter := Fields.last?_filter (p := fun name => !isReserved name)
    (congrArg (!·) hkey) (Fields.ofList members)
  have hnone : ∀ found : Option Json, found.or (Fields.get? [] key) = found := by
    intro found
    cases found <;> rfl
  rw [withExtra, he, Fields.get?_insertAll, hnone, hfilter, (Fields.sorted_ofList members).last?_eq,
    Fields.ofList, Fields.get?_insertAll, hnone]

end ShopTraffic
