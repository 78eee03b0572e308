/-!
Lenses. A lens focuses a part of a whole: it reads the part, and it puts another part in its place,
which gives a new whole. Both may fail.

* `Lens.modify`, `Lens.lift`: change the focus by a function.
* `Lens.compose`: a focus inside a focus, with `Lens.identity` as its unit.
* `Lens.concat`: the foci of two lenses as a pair.
-/
namespace RecordLens

/-- A lens from wholes `σ` to parts `τ`, failing with `ε`. -/
structure Lens (ε σ τ : Type) where
  get : σ → Except ε τ
  set : σ → τ → Except ε σ
  /-- What the lens is shown as. -/
  label : String := "<lambda>"

/-- How pairs are made and taken apart. -/
structure Pairing (ε α β π : Type) where
  pair : α → β → π
  first : π → Except ε α
  second : π → Except ε β

/-- Plain pairs. -/
def Pairing.plain {ε α β : Type} : Pairing ε α β (α × β) := ⟨Prod.mk, (.ok ·.1), (.ok ·.2)⟩

namespace Lens
variable {ε σ τ α β π : Type}

/-- A short description. -/
def describe (l : Lens ε σ τ) : String := "<Lens get=" ++ l.label ++ ">"

/-- Replace the focus by its image under `f`. -/
def modify (l : Lens ε σ τ) (whole : σ) (f : τ → Except ε τ) : Except ε σ := do
  l.set whole (← f (← l.get whole))

/-- A function on the focus as a function on the whole. -/
def lift (l : Lens ε σ τ) (f : τ → Except ε τ) : σ → Except ε σ := fun whole => l.modify whole f

/-- The whole as its own focus. -/
def identity : Lens ε σ σ where
  get whole := .ok whole
  set _ target := .ok target

/-- Focus through `outer`, then through `inner`. -/
def compose (outer : Lens ε σ τ) (inner : Lens ε τ α) : Lens ε σ α where
  get whole := do inner.get (← outer.get whole)
  set whole target := do outer.set whole (← inner.set (← outer.get whole) target)
  label := "get"

/-- Focus on two parts at once. The setter of `b` runs on what the setter of `a` made, so `b` wins
    where the two interfere. The second part is taken out after `a` was set. -/
def concatBy (pairs : Pairing ε α β π) (a : Lens ε σ α) (b : Lens ε σ β) : Lens ε σ π where
  get whole := do return pairs.pair (← a.get whole) (← b.get whole)
  set whole both := do
    let between ← a.set whole (← pairs.first both)
    b.set between (← pairs.second both)
  label := "get"

/-- Focus on two parts at once, as a plain pair. -/
def concat (a : Lens ε σ α) (b : Lens ε σ β) : Lens ε σ (α × β) := concatBy .plain a b

end Lens

/-- Apply a function that may fail `n` times. -/
def applyTimes {ε σ : Type} (f : σ → Except ε σ) : Nat → σ → Except ε σ
  | 0, s => .ok s
  | n + 1, s => do applyTimes f n (← f s)

end RecordLens
