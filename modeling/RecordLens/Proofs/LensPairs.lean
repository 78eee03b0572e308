import RecordLens.Proofs.LensClosure
/-!
Lenses side by side, in other brackets and inside a focus. Three lenses side by side run the same getters
and setters in the same order, whichever two of them are put together first; only the pairs are nested
the other way. A lens that reads back what was set and keeps the last value set can be focused through
once for a pair or once for each part of it, even where the parts interfere: the second time it reads
what the first time has put there.

* `Pairing.Splits`: what was paired is taken apart again.
* `Lens.AlikeAcross`: two lenses of the same values, each with its own way to pack them.
* `Lens.concatBy_regroup`: three lenses side by side.
* `Lens.compose_concatBy`: a pair inside a focus.
* `concat_regroups_and_distributes`: both, for pairs and for pairs among values.
-/
namespace RecordLens

variable {ε σ τ α β γ κ π ρ : Type}

/-! ## Pairs -/

/-- What was put into a pair is taken out of it again. -/
structure Pairing.Splits (p : Pairing ε α β π) : Prop where
  first : ∀ x y, p.first (p.pair x y) = .ok x
  second : ∀ x y, p.second (p.pair x y) = .ok y

theorem Pairing.plain_splits : (Pairing.plain : Pairing ε α β (α × β)).Splits :=
  ⟨fun _ _ => rfl, fun _ _ => rfl⟩

theorem Value.pairing_splits : Value.pairing.Splits := ⟨fun _ _ => rfl, fun _ _ => rfl⟩

namespace Lens

/-- Two lenses focus the same values, which the one packs by `left` and the other by `right`. They fail
    alike, too. -/
structure AlikeAcross (left : κ → π) (right : κ → ρ) (l : Lens ε σ π) (r : Lens ε σ ρ) : Prop where
  get : ∃ read : σ → Except ε κ, ∀ s, l.get s = left <$> read s ∧ r.get s = right <$> read s
  set : ∀ s k, l.set s (left k) = r.set s (right k)

section
variable (a : Lens ε σ α) (b : Lens ε σ β)

theorem concatBy_get (p : Pairing ε α β π) (s : σ) :
    (concatBy p a b).get s = a.get s >>= fun x => p.pair x <$> b.get s := rfl

theorem concatBy_set (p : Pairing ε α β π) (s : σ) (both : π) :
    (concatBy p a b).set s both = p.first both >>= fun x => a.set s x >>= fun s' =>
      p.second both >>= b.set s' := rfl

theorem concatBy_set_pair {p : Pairing ε α β π} (h : p.Splits) (s : σ) (x : α) (y : β) :
    (concatBy p a b).set s (p.pair x y) = a.set s x >>= fun s' => b.set s' y := by
  rw [concatBy_set, h.first, h.second]
  rfl

end

/-! ## Other brackets -/

/-- **Three lenses side by side can be put together in either order.** -/
theorem concatBy_regroup {ab : Pairing ε α β π} {abc : Pairing ε π γ ρ} {bc : Pairing ε β γ τ}
    {abc' : Pairing ε α τ κ} (hab : ab.Splits) (habc : abc.Splits) (hbc : bc.Splits)
    (habc' : abc'.Splits) (a : Lens ε σ α) (b : Lens ε σ β) (c : Lens ε σ γ) :
    AlikeAcross (fun t : α × β × γ => abc.pair (ab.pair t.1 t.2.1) t.2.2)
      (fun t => abc'.pair t.1 (bc.pair t.2.1 t.2.2))
      (concatBy abc (concatBy ab a b) c) (concatBy abc' a (concatBy bc b c)) where
  get := by
    refine ⟨fun s => a.get s >>= fun x => b.get s >>= fun y => (fun z => (x, y, z)) <$> c.get s,
      fun s => ⟨?_, ?_⟩⟩
    · simp only [concatBy_get, map_bind, bind_assoc, bind_map_left, Functor.map_map]
    · simp only [concatBy_get, map_bind, Functor.map_map]
  set s t := by
    rw [concatBy_set_pair _ c habc, concatBy_set_pair a b hab, concatBy_set_pair a _ habc', bind_assoc]
    exact bind_congr fun s' => (concatBy_set_pair b c hbc s' t.2.1 t.2.2).symm

/-! ## Inside a focus -/

section
variable {x : Lens ε σ τ} (hback : ∀ s, x.ReadsBack s) (hlast : ∀ s, x.Overwrites s)
include hback hlast

theorem compose_set_again (b : Lens ε τ β) {s s' : σ} {t : τ} (hset : x.set s t = .ok s') (u : β) :
    (x.compose b).set s' u = b.set t u >>= x.set s := by
  obtain ⟨s₁, hs₁, hread⟩ := (hback s).set_ok t
  obtain rfl := Except.ok.inj (hs₁.symm.trans hset)
  rw [compose_set_ok hread]
  refine bind_congr fun t' => ?_
  have hover := hlast s t t'
  rwa [hset] at hover

/-- **A pair inside a focus is a pair of foci**, whatever the two lenses of the pair do to each other. -/
theorem compose_concatBy (hget : ∀ s, ∃ t, x.get s = .ok t) (p : Pairing ε α β π) (a : Lens ε τ α)
    (b : Lens ε τ β) : (x.compose (concatBy p a b)).SameAs (concatBy p (x.compose a) (x.compose b)) where
  get s := by
    obtain ⟨t, ht⟩ := hget s
    rw [compose_get_ok ht, concatBy_get, concatBy_get, compose_get_ok ht, compose_get_ok ht]
  set s both := by
    obtain ⟨t, ht⟩ := hget s
    rw [compose_set_ok ht, concatBy_set, concatBy_set, bind_assoc]
    refine bind_congr fun y => ?_
    rw [compose_set_ok ht, bind_assoc, bind_assoc]
    refine bind_congr fun t' => ?_
    -- the whole that the first part leaves behind
    obtain ⟨s', hset, -⟩ := (hback s).set_ok t'
    rw [hset, bind_assoc]
    exact bind_congr fun z => (compose_set_again hback hlast b hset z).symm

end

end Lens

/-- **Lenses side by side re-associate, and composition distributes over them.** Three lenses side by side
    read, set and fail alike in both brackets, up to the nesting of pairs, be they plain pairs or tuples
    among values. A lens whose getter succeeds, that reads back what is set and keeps the last value
    set, focuses a pair as it focuses the two parts of it side by side. -/
theorem concat_regroups_and_distributes :
    (∀ (a : Lens ε σ α) (b : Lens ε σ β) (c : Lens ε σ γ),
      Lens.AlikeAcross (fun t : α × β × γ => ((t.1, t.2.1), t.2.2)) (fun t => (t.1, (t.2.1, t.2.2)))
        ((a.concat b).concat c) (a.concat (b.concat c))) ∧
    (∀ a b c : Lens Fault Value Value,
      Lens.AlikeAcross
        (fun t : Value × Value × Value => Value.tuple [.tuple [t.1, t.2.1], t.2.2])
        (fun t => Value.tuple [t.1, .tuple [t.2.1, t.2.2]])
        (Value.concat (Value.concat a b) c) (Value.concat a (Value.concat b c))) ∧
    (∀ (p : Pairing ε α β π) (x : Lens ε σ τ) (a : Lens ε τ α) (b : Lens ε τ β),
      (∀ s, ∃ t, x.get s = .ok t) → (∀ s, x.ReadsBack s) → (∀ s, x.Overwrites s) →
      (x.compose (.concatBy p a b)).SameAs (.concatBy p (x.compose a) (x.compose b))) := by
  refine ⟨?_, ?_, ?_⟩
  · have hplain {α β : Type} := Pairing.plain_splits (ε := ε) (α := α) (β := β)
    exact Lens.concatBy_regroup hplain hplain hplain hplain
  · have hvalue := Value.pairing_splits
    exact Lens.concatBy_regroup hvalue hvalue hvalue hvalue
  · intro p x a b hget hback hlast
    exact Lens.compose_concatBy hback hlast hget p a b

/-- Two numbers with a note that they were set. What is set is read back, and the last value counts; but
    to set what is read leaves the note. -/
def notedNumbers : Lens Fault ((Int × Int) × Bool) (Int × Int) where
  get whole := .ok whole.1
  set _ target := .ok (target, true)

/-- The left number and the sum interfere, and the noted numbers do not obey all laws. Items of a text can
    be read but not set, in either bracket. -/
theorem concat_regroups_and_distributes_noted :
    ((leftNumber.concat numberSum).concat rightNumber).set (1, 2) ((3, 4), 5) =
      (leftNumber.concat (numberSum.concat rightNumber)).set (1, 2) (3, (4, 5)) ∧
    (Value.concat (Value.concat (Value.item 0) (Value.item 1)) (Value.item 0)).set (.str "ab")
        (.tuple [.tuple [.int 1, .int 2], .int 3]) =
      (Value.concat (Value.item 0) (Value.concat (Value.item 1) (Value.item 0))).set (.str "ab")
        (.tuple [.int 1, .tuple [.int 2, .int 3]]) ∧
    (¬∀ s u, (numberSum.set s u >>= leftNumber.get) = leftNumber.get s) ∧
    (∀ s, ∃ t, notedNumbers.get s = .ok t) ∧ (∀ s, notedNumbers.ReadsBack s) ∧
    (∀ s, notedNumbers.Overwrites s) ∧ ¬notedNumbers.Restores ((1, 2), false) ∧
    (notedNumbers.compose (leftNumber.concat numberSum)).set ((1, 2), false) (3, 4) =
      ((notedNumbers.compose leftNumber).concat (notedNumbers.compose numberSum)).set
        ((1, 2), false) (3, 4) := by
  obtain ⟨hplain, hvalue, -⟩ := concat_regroups_and_distributes (ε := Fault) (σ := Int × Int)
    (τ := Int) (α := Int) (β := Int) (γ := Int) (π := Int × Int)
  obtain ⟨-, -, hfocus⟩ := concat_regroups_and_distributes (ε := Fault) (σ := (Int × Int) × Bool)
    (τ := Int × Int) (α := Int) (β := Int) (γ := Int) (π := Int × Int)
  have hget : ∀ s, ∃ t, notedNumbers.get s = .ok t := fun s => ⟨s.1, rfl⟩
  have hback : ∀ s, notedNumbers.ReadsBack s := fun _ _ => rfl
  have hlast : ∀ s, notedNumbers.Overwrites s := fun _ _ _ => rfl
  refine ⟨?_, ?_, ?_, hget, hback, hlast, ?_, ?_⟩
  · exact (hplain leftNumber numberSum rightNumber).set (1, 2) (3, 4, 5)
  · exact (hvalue (Value.item 0) (Value.item 1) (Value.item 0)).set (.str "ab") (.int 1, .int 2, .int 3)
  · exact fun h => absurd (h (0, 0) 1) (by decide)
  · unfold Lens.Restores
    decide
  · exact (hfocus .plain notedNumbers leftNumber numberSum hget hback hlast).set ((1, 2), false) (3, 4)

end RecordLens
