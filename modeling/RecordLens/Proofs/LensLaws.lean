import RecordLens.Optic.Lens
/-!
The laws of lenses that may fail, on the wholes of which a property holds: there they do not fail, and
a new whole has the property again.

* `Lens.LawfulOn`: what is set is read back, setting what is read changes nothing, and the last value
  set is the one that counts.
* `Lens.CommuteOn`: the order in which two lenses set does not matter.
-/
namespace RecordLens.Lens

variable {ε σ τ α : Type}

/-- The lens laws, where `holds`. -/
structure LawfulOn (l : Lens ε σ τ) (holds : σ → Prop) : Prop where
  get_ok : ∀ {s}, holds s → ∃ t, l.get s = .ok t
  set_ok : ∀ {s} (t), holds s → ∃ s', l.set s t = .ok s' ∧ holds s'
  get_set : ∀ {s t s'}, holds s → l.set s t = .ok s' → l.get s' = .ok t
  set_get : ∀ {s t}, holds s → l.get s = .ok t → l.set s t = .ok s
  set_set : ∀ {s t s'} (u), holds s → l.set s t = .ok s' → l.set s' u = l.set s u

/-- Both orders of setting two values succeed with the same whole. -/
def CommuteOn (a : Lens ε σ τ) (b : Lens ε σ α) (holds : σ → Prop) : Prop :=
  ∀ s t u, holds s → ∃ s', holds s' ∧
    (a.set s t >>= fun s₁ => b.set s₁ u) = .ok s' ∧ (b.set s u >>= fun s₁ => a.set s₁ t) = .ok s'

variable {holds : σ → Prop}

/-- A setter that succeeds with an update of the whole is lawful if the update is. -/
theorem LawfulOn.of_update {l : Lens ε σ τ} (update : τ → σ → σ)
    (hget : ∀ s, holds s → ∃ t, l.get s = .ok t)
    (hset : ∀ s t, holds s → l.set s t = .ok (update t s))
    (hholds : ∀ s t, holds s → holds (update t s))
    (hfocus : ∀ s t, holds s → l.get (update t s) = .ok t)
    (hsame : ∀ s t, holds s → l.get s = .ok t → update t s = s)
    (hlast : ∀ s t u, holds s → update u (update t s) = update u s) : l.LawfulOn holds where
  get_ok hs := hget _ hs
  set_ok t hs := ⟨update t _, hset _ t hs, hholds _ t hs⟩
  get_set {s t s'} hs h := by
    have hs' : s' = update t s := Except.ok.inj (h.symm.trans (hset s t hs))
    rw [hs']
    exact hfocus s t hs
  set_get {s t} hs h := by rw [hset s t hs, hsame s t hs h]
  set_set {s t s'} u hs h := by
    have hs' : s' = update t s := Except.ok.inj (h.symm.trans (hset s t hs))
    rw [hs', hset _ u (hholds s t hs), hlast s t u hs, hset s u hs]

/-- Setters that succeed with updates of the whole commute if the updates do. -/
theorem CommuteOn.of_update {a : Lens ε σ τ} {b : Lens ε σ α} (f : τ → σ → σ) (g : α → σ → σ)
    (ha : ∀ s t, holds s → a.set s t = .ok (f t s))
    (hb : ∀ s u, holds s → b.set s u = .ok (g u s))
    (hf : ∀ s t, holds s → holds (f t s)) (hg : ∀ s u, holds s → holds (g u s))
    (hcomm : ∀ s t u, holds s → g u (f t s) = f t (g u s)) : CommuteOn a b holds := by
  intro s t u hs
  refine ⟨g u (f t s), hg _ u (hf s t hs), ?_, ?_⟩
  · rw [ha s t hs]
    exact hb _ u (hf s t hs)
  · rw [hb s u hs, hcomm s t u hs]
    exact ha _ t (hg s u hs)

end RecordLens.Lens
