import ShopTraffic.Proofs.Flow.Run

/-!
What each part of the shutdown does. The load is waited for, the queue is looked at until it is
empty, the sink workers are told to end and waited for one after another, the queue is closed and
emptied, and last the load is waited for again. All that is proved of the shutdown rests on this
account of it.
-/

namespace ShopTraffic

namespace Pipeline

variable {p p' : Pipeline} {k : Nat} {deadline : Instant}

def Same (p p' : Pipeline) : Prop :=
  p'.outlets = p.outlets ∧ p'.queue = p.queue ∧ p'.findings = p.findings

/-- The pipeline `p'` has come of `p` by the next part of the shutdown. -/
inductive Closes (p p' : Pipeline) : Prop where
  | join (deadline : Instant) (was : p.closing = .joining deadline)
      (now : p'.closing = .looking deadline) (outlets : p'.outlets = p.outlets)
      (queue : p'.queue = p.queue)
      (found : p'.findings = p.findings ∨
        p.load.isOver = true ∧ p'.findings = { p.findings with joined := true })
  | tell (deadline : Instant) (was : p.closing = .looking deadline)
      (now : p'.closing = .halting 0) (outlets : p'.outlets = p.outlets.cancel)
      (queue : p'.queue = p.queue)
      (found : p'.findings = p.findings ∨
        p.queue.used = 0 ∧ p'.findings = { p.findings with drained := true })
  | pause (deadline wake : Instant) (was : p.closing = .looking deadline)
      (now : p'.closing = .pausing deadline wake) (same : p.Same p')
  | look (deadline wake : Instant) (was : p.closing = .pausing deadline wake)
      (now : p'.closing = .looking deadline) (same : p.Same p')
  | turn (k : Nat) (was : p.closing = .halting k)
      (now : p'.closing = .awaiting k (p.instant + grace)) (same : p.Same p')
  | done (k : Nat) (was : p.closing = .halting k) (all : p.outlets.workers.size ≤ k)
      (now : p'.closing = .clearing) (same : p.Same p')
  | next (k : Nat) (limit : Instant) (was : p.closing = .awaiting k limit)
      (now : p'.closing = .halting (k + 1)) (ended : isDone (p.outlets.worker k) = true)
      (same : p.Same p')
  | abort (k : Nat) (limit : Instant) (was : p.closing = .awaiting k limit)
      (now : p'.closing = .halting (k + 1)) (busy : isDone (p.outlets.worker k) = false)
      (late : wholeMs limit ≤ p.instant) (outlets : p'.outlets = p.outlets.abort k)
      (queue : p'.queue = p.queue) (findings : p'.findings = p.findings)
  | clear (was : p.closing = .clearing) (now : p'.closing = .rejoining)
      (outlets : p'.outlets = p.outlets) (queue : p'.queue = p.queue.close.clear)
      (findings : p'.findings = { p.findings with dropped := p.queue.length })
  | rejoin (was : p.closing = .rejoining) (now : p'.closing = .leaving)
      (ended : p.load.isOver = true) (same : p.Same p')
  | leave (was : p.closing = .leaving) (now : p'.closing = .closed) (same : p.Same p')

lemma onJoined_spec (hc : p.closing = .joining deadline) :
    p.Frame (p.onJoined deadline) ∧ p.Closes (p.onJoined deadline) := by
  unfold onJoined
  split
  · next hv =>
    exact ⟨⟨rfl, p.load.collect_work⟩,
      .join deadline hc rfl rfl p.load.collect_output (.inr ⟨hv, rfl⟩)⟩
  · exact ⟨⟨rfl, p.load.note_work _⟩, .join deadline hc rfl rfl rfl (.inl rfl)⟩

lemma onLook_spec (hc : p.closing = .looking deadline) :
    p.Frame (p.onLook deadline) ∧ p.Closes (p.onLook deadline) := by
  have hf := p.load.sameWork_refl
  unfold onLook
  split
  · next hu => exact ⟨⟨rfl, hf⟩, .tell deadline hc rfl rfl rfl (.inr ⟨hu, rfl⟩)⟩
  · split
    · exact ⟨⟨rfl, hf⟩, .tell deadline hc rfl rfl rfl (.inl rfl)⟩
    · exact ⟨⟨rfl, hf⟩, .pause deadline _ hc rfl ⟨rfl, rfl, rfl⟩⟩

lemma onHalt_spec (hc : p.closing = .halting k) :
    p.Frame (p.onHalt k) ∧ p.Closes (p.onHalt k) := by
  have hf := p.load.sameWork_refl
  unfold onHalt
  split
  · exact ⟨⟨rfl, hf⟩, .turn k hc rfl ⟨rfl, rfl, rfl⟩⟩
  · next hk => exact ⟨⟨rfl, hf⟩, .done k hc (Nat.not_lt.mp hk) rfl ⟨rfl, rfl, rfl⟩⟩

lemma onAwaited_spec {limit : Instant} (hc : p.closing = .awaiting k limit)
    (hx : p.canClose = true) : p.Frame (p.onAwaited k) ∧ p.Closes (p.onAwaited k) := by
  have hlate : isDone (p.outlets.worker k) = false → wholeMs limit ≤ p.instant := by
    intro hd
    simpa [canClose, hc, hd] using hx
  unfold onAwaited
  dsimp only
  split
  case h_1 hw =>
    exact ⟨⟨rfl, p.load.note_work _⟩, .next k limit hc rfl (by rw [hw]; rfl) ⟨rfl, rfl, rfl⟩⟩
  case h_2 hw | h_3 hw =>
    exact ⟨⟨rfl, p.load.sameWork_refl⟩, .next k limit hc rfl (by rw [hw]; rfl) ⟨rfl, rfl, rfl⟩⟩
  case h_4 hw | h_5 hw =>
    have hd : isDone (p.outlets.worker k) = false := by rw [hw]; rfl
    exact ⟨⟨rfl, p.load.note_work _⟩, .abort k limit hc rfl hd (hlate hd) rfl rfl rfl⟩

lemma onClear_spec (hc : p.closing = .clearing) : p.Frame p.onClear ∧ p.Closes p.onClear := by
  unfold onClear
  dsimp only
  split <;> exact ⟨⟨rfl, rfl, rfl, rfl, rfl, rfl, rfl, id⟩, .clear hc rfl rfl rfl rfl⟩

lemma onRejoined_spec (hc : p.closing = .rejoining) (hv : p.load.isOver = true) :
    p.Frame p.onRejoined ∧ p.Closes p.onRejoined := by
  have hq := p.load.collect_output
  unfold onRejoined
  dsimp only
  split <;> split
  case h_1.isTrue =>
    exact ⟨⟨rfl, p.load.sameWork_refl⟩, .rejoin hc rfl hv ⟨rfl, rfl, rfl⟩⟩
  case h_1.isFalse =>
    exact ⟨⟨rfl, p.load.collect_work⟩, .rejoin hc rfl hv ⟨rfl, hq, rfl⟩⟩
  case h_2.isTrue =>
    exact ⟨⟨rfl, p.load.note_work _⟩, .rejoin hc rfl hv ⟨rfl, rfl, rfl⟩⟩
  case h_2.isFalse =>
    exact ⟨⟨rfl, p.load.collect_work.trans (p.load.collect.note_work _)⟩,
      .rejoin hc rfl hv ⟨rfl, hq, rfl⟩⟩

/-- **What a part of the shutdown does**, and what it leaves alone. -/
lemma onClose_spec (hx : p.canClose = true) : p.Frame p.onClose ∧ p.Closes p.onClose := by
  unfold onClose
  cases hc : p.closing with
  | unasked | closed => simp [canClose, hc] at hx
  | joining deadline => exact onJoined_spec hc
  | looking deadline => exact onLook_spec hc
  | pausing deadline wake =>
    exact ⟨⟨rfl, p.load.sameWork_refl⟩, .look deadline wake hc rfl ⟨rfl, rfl, rfl⟩⟩
  | halting k => exact onHalt_spec hc
  | awaiting k limit => exact onAwaited_spec hc hx
  | clearing => exact onClear_spec hc
  | rejoining => exact onRejoined_spec hc (by simpa [canClose, hc] using hx)
  | leaving => exact ⟨⟨rfl, p.load.note_work _⟩, .leave hc rfl ⟨rfl, rfl, rfl⟩⟩

end Pipeline

end ShopTraffic
