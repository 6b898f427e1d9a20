import ShopTraffic.Proofs.Payload.Makes

/-!
Payloads leave the behaviour model alone. Making one changes what the session remembers for later
payloads, but not where the visitor is, whose visit it is, until when it counts, or what was
searched for.
-/

namespace ShopTraffic

open ShopTraffic.Random

/-- The session without what it remembers for payloads only. -/
def Session.bare (s : Session) : Session :=
  { s with
    pageType := "", eventPage := "", country := "", category := "", pageIndex := 0
    picked := {}, quantity := 0 }

namespace Payload

variable {s : Session} {a : Action} {p : Part}

/-- Only what is remembered for payloads is changed. -/
lemma Makes.keeps (h : Makes s a p) : p.session.bare = s.bare := by
  cases h <;> rfl

lemma Tells.keeps {g : Generated} (h : Tells s a g) : g.session.bare = s.bare := by
  obtain ⟨p, hp, hs, -⟩ := h
  rw [hs, hp.keeps]

/-- Whatever is drawn, a payload leaves the behaviour model alone. -/
lemma generate_keeps (s : Session) (a : Action) :
    Draw.Always (fun g : Generated => g.session.bare = s.bare) (generate a s) :=
  (generate_tells s a).imp fun _ h => h.keeps

end Payload

end ShopTraffic
