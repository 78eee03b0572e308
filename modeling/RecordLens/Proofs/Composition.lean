import RecordLens.Optic.Value
/-!
Lenses in a row. A row of lenses, each focusing inside the focus of the one before, is composed by
putting brackets around two neighbours at a time. Getters and setters may fail; however the brackets
stand, the composed lens reads and sets alike, down to the fault, although each way of bracketing runs
the outer getters a different number of times.

* `Lens.compose_assoc`, `Lens.identity_compose`, `Lens.compose_identity_set`: associativity, and the
  unit on both sides.
* `LensChain`, `Bracketing`: a row of lenses, and a way to compose it.
* `Bracketing.sameAs_chain`: every way of bracketing behaves as the one that groups to the right.
* `bracketings_sameAs`: the laws of composition for all rows and all ways of bracketing them.
-/
namespace RecordLens

variable {ε σ τ α β : Type}

namespace Lens

/-! ## Behaviour -/

/-- Two lenses read and set alike: on every whole and for every target they give the same value or
    fail with the same fault. -/
structure SameAs (a b : Lens ε σ τ) : Prop where
  get : ∀ whole, a.get whole = b.get whole
  set : ∀ whole target, a.set whole target = b.set whole target

namespace SameAs

theorem refl (a : Lens ε σ τ) : a.SameAs a := ⟨fun _ => rfl, fun _ _ => rfl⟩

theorem symm {a b : Lens ε σ τ} (h : a.SameAs b) : b.SameAs a :=
  ⟨fun whole => (h.get whole).symm, fun whole target => (h.set whole target).symm⟩

theorem trans {a b c : Lens ε σ τ} (hab : a.SameAs b) (hbc : b.SameAs c) : a.SameAs c :=
  ⟨fun whole => (hab.get whole).trans (hbc.get whole),
   fun whole target => (hab.set whole target).trans (hbc.set whole target)⟩

/-- Composition looks at nothing but what its parts read and set. -/
theorem compose {a a' : Lens ε σ τ} {b b' : Lens ε τ α} (ha : a.SameAs a') (hb : b.SameAs b') :
    (a.compose b).SameAs (a'.compose b') where
  get whole := by simp only [Lens.compose, ha.get, hb.get]
  set whole target := by simp only [Lens.compose, ha.get, ha.set, hb.set]

end SameAs

/-! ## Composition, by what the outer getter does -/

section
variable {a : Lens ε σ τ} {whole : σ}

theorem compose_get_ok {part : τ} (h : a.get whole = .ok part) (b : Lens ε τ α) :
    (a.compose b).get whole = b.get part := by
  simp only [compose, h]
  rfl

theorem compose_set_ok {part : τ} (h : a.get whole = .ok part) (b : Lens ε τ α) (target : α) :
    (a.compose b).set whole target = b.set part target >>= a.set whole := by
  simp only [compose, h]
  rfl

theorem compose_get_error {fault : ε} (h : a.get whole = .error fault) (b : Lens ε τ α) :
    (a.compose b).get whole = .error fault := by
  simp only [compose, h]
  rfl

theorem compose_set_error {fault : ε} (h : a.get whole = .error fault) (b : Lens ε τ α)
    (target : α) : (a.compose b).set whole target = .error fault := by
  simp only [compose, h]
  rfl

end

/-- **Composition is associative.** On the left the focus of `a` is read once more on the way back; it
    was read before, so this succeeds with the same part. -/
theorem compose_assoc (a : Lens ε σ τ) (b : Lens ε τ α) (c : Lens ε α β) :
    ((a.compose b).compose c).SameAs (a.compose (b.compose c)) := by
  constructor
  · intro whole
    simp only [compose, bind_assoc]
  · intro whole target
    cases ha : a.get whole with
    | error fault =>
      rw [compose_set_error (compose_get_error ha b), compose_set_error ha]
    | ok part =>
      have hab : (a.compose b).get whole = b.get part := compose_get_ok ha b
      rw [compose_set_ok ha]
      cases hb : b.get part with
      | error fault =>
        rw [compose_set_error (hab.trans hb), compose_set_error hb]
        rfl
      | ok inner =>
        rw [compose_set_ok (hab.trans hb), compose_set_ok hb, bind_assoc]
        exact bind_congr fun new => compose_set_ok ha b new

/-! ## The unit -/

theorem identity_compose (a : Lens ε σ τ) : (identity.compose a).SameAs a where
  get _ := rfl
  set whole target := bind_pure (a.set whole target)

theorem compose_identity_get (a : Lens ε σ τ) (whole : σ) :
    (a.compose identity).get whole = a.get whole := bind_pure (a.get whole)

/-- With the unit behind it, a lens reads before it sets. -/
theorem compose_identity_set (a : Lens ε σ τ) (whole : σ) (target : τ) :
    (a.compose identity).set whole target = a.get whole >>= fun _ => a.set whole target := rfl

end Lens

/-! ## Rows and brackets -/

/-- Lenses in a row, each of which focuses inside the focus of the one before. -/
inductive LensChain (ε : Type) : Type → Type → Type 1
  | single {σ τ : Type} (l : Lens ε σ τ) : LensChain ε σ τ
  | cons {σ τ α : Type} (l : Lens ε σ τ) (rest : LensChain ε τ α) : LensChain ε σ α

namespace LensChain

/-- The lenses of one row and then those of another. -/
def append : {σ τ : Type} → LensChain ε σ τ → LensChain ε τ α → LensChain ε σ α
  | _, _, single l, back => cons l back
  | _, _, cons l rest, back => cons l (rest.append back)

/-- The lens of a row, grouped to the right. -/
def lens : {σ τ : Type} → LensChain ε σ τ → Lens ε σ τ
  | _, _, single l => l
  | _, _, cons l rest => l.compose rest.lens

theorem append_lens (front : LensChain ε σ τ) (back : LensChain ε τ α) :
    (front.append back).lens.SameAs (front.lens.compose back.lens) := by
  induction front with
  | single l => exact .refl _
  | cons l rest ih =>
    exact (Lens.SameAs.compose (.refl l) (ih back)).trans (Lens.compose_assoc _ _ _).symm

theorem identity_cons_lens (c : LensChain ε σ τ) : (cons .identity c).lens.SameAs c.lens :=
  Lens.identity_compose c.lens

theorem append_identity_cons_lens (front : LensChain ε σ τ) (back : LensChain ε τ α) :
    (front.append (cons .identity back)).lens.SameAs (front.append back).lens := by
  refine (append_lens front _).trans (Lens.SameAs.trans ?_ (append_lens front back).symm)
  exact .compose (.refl front.lens) back.identity_cons_lens

end LensChain

/-- A way to compose a row of lenses, two neighbours at a time. -/
inductive Bracketing (ε : Type) : Type → Type → Type 1
  | lens {σ τ : Type} (l : Lens ε σ τ) : Bracketing ε σ τ
  | compose {σ τ α : Type} (outer : Bracketing ε σ τ) (inner : Bracketing ε τ α) :
    Bracketing ε σ α

namespace Bracketing

/-- The row of lenses that is composed. -/
def chain : {σ τ : Type} → Bracketing ε σ τ → LensChain ε σ τ
  | _, _, lens l => .single l
  | _, _, compose outer inner => outer.chain.append inner.chain

/-- The composed lens. -/
def composed : {σ τ : Type} → Bracketing ε σ τ → Lens ε σ τ
  | _, _, lens l => l
  | _, _, compose outer inner => outer.composed.compose inner.composed

/-- Every way of bracketing a row behaves as the one that groups to the right. -/
theorem sameAs_chain (b : Bracketing ε σ τ) : b.composed.SameAs b.chain.lens := by
  induction b with
  | lens l => exact .refl l
  | compose outer inner houter hinner =>
    exact (houter.compose hinner).trans (LensChain.append_lens _ _).symm

/-- Rows that behave alike do so in every way of bracketing them. -/
theorem sameAs_of_chain {b c : Bracketing ε σ τ} (h : b.chain.lens.SameAs c.chain.lens) :
    b.composed.SameAs c.composed := (b.sameAs_chain.trans h).trans c.sameAs_chain.symm

end Bracketing

/-- **Composition is a monoid up to behaviour.** All ways of bracketing a row of lenses read and set
    alike, down to the fault. The unit in front of the row or between two of its lenses changes
    nothing. Behind the row it changes nothing that is read, and nothing that is set in a whole
    whose focus can be read; where the getter fails, setting fails with the same fault. -/
theorem bracketings_sameAs (b : Bracketing ε σ τ) :
    (∀ c : Bracketing ε σ τ, c.chain = b.chain → c.composed.SameAs b.composed) ∧
    (∀ c : Bracketing ε σ τ, c.chain = .cons .identity b.chain → c.composed.SameAs b.composed) ∧
    (∀ (α : Type) (front : LensChain ε σ α) (back : LensChain ε α τ),
      b.chain = front.append back → ∀ c : Bracketing ε σ τ,
      c.chain = front.append (.cons .identity back) → c.composed.SameAs b.composed) ∧
    (∀ c : Bracketing ε σ τ, c.chain = b.chain.append (.single .identity) →
      (∀ whole, c.composed.get whole = b.composed.get whole) ∧
      (∀ whole part target, b.composed.get whole = .ok part →
        c.composed.set whole target = b.composed.set whole target) ∧
      (∀ whole fault target, b.composed.get whole = .error fault →
        c.composed.set whole target = .error fault)) := by
  refine ⟨?_, ?_, ?_, ?_⟩
  · intro c hc
    exact Bracketing.sameAs_of_chain (hc ▸ .refl _)
  · intro c hc
    exact Bracketing.sameAs_of_chain (hc ▸ b.chain.identity_cons_lens)
  · intro α front back hb c hc
    refine Bracketing.sameAs_of_chain ?_
    rw [hb, hc]
    exact LensChain.append_identity_cons_lens front back
  · intro c hc
    have hend : c.composed.SameAs (b.composed.compose .identity) := by
      refine c.sameAs_chain.trans ?_
      rw [hc]
      exact (LensChain.append_lens _ _).trans (b.sameAs_chain.symm.compose (.refl .identity))
    refine ⟨?_, ?_, ?_⟩
    · intro whole
      rw [hend.get, Lens.compose_identity_get]
    · intro whole part target hread
      rw [hend.set, Lens.compose_identity_set, hread]
      rfl
    · intro whole fault target hread
      rw [hend.set, Lens.compose_identity_set, hread]
      rfl

/-- The first item of the second item of the first item. -/
def innerItem : Bracketing Fault Value Value :=
  .compose (.compose (.lens (Value.item 0)) (.lens (Value.item 1))) (.lens (Value.item 0))

/-- On the empty tuple, which has no first item, the unit behind the row makes the setter fail. -/
theorem bracketings_sameAs_items :
    let grouped : Bracketing Fault Value Value :=
      .compose (.lens (Value.item 0)) (.compose (.lens (Value.item 1)) (.lens (Value.item 0)))
    let behind : Bracketing Fault Value Value := .compose grouped (.lens .identity)
    let between : Bracketing Fault Value Value :=
      .compose (.lens (Value.item 0))
        (.compose (.compose (.lens .identity) (.lens (Value.item 1))) (.lens (Value.item 0)))
    (grouped.chain = innerItem.chain ∧ grouped.composed.SameAs innerItem.composed) ∧
    between.composed.SameAs innerItem.composed ∧
    (Bracketing.compose (.lens .identity) innerItem).composed.SameAs innerItem.composed ∧
    innerItem.composed.get (.tuple []) = .error .outOfRange ∧
    behind.composed.set (.tuple []) .none = .error .outOfRange := by
  intro grouped behind between
  obtain ⟨hall, hfront, hbetween, hend⟩ := bracketings_sameAs innerItem
  refine ⟨⟨rfl, hall grouped rfl⟩, ?_, hfront _ rfl, rfl, ?_⟩
  · exact hbetween _ (.single (Value.item 0))
      (.cons (Value.item 1) (.single (Value.item 0))) rfl between rfl
  · exact (hend behind rfl).2.2 (.tuple []) .outOfRange .none rfl

end RecordLens
