import Mathlib.Logic.Function.Iterate
import RecordLens.Proofs.LensClosure
/-!
Functions along a lawful lens. A function that is lifted along a lens reads the focus and sets its image.
If this is done again, the focus is read from the whole that was set before; by the laws of lenses it is
the value that was set, and only the last value counts. So any number of applications is one update of
the focus.

* `Lens.LawfulOn.modify_set`: a function applied behind a setter.
* `Lens.LawfulOn.applyTimes_lift`: a lifted function, applied several times.
* `Lens.UpdatesOnce`: changes of the focus of a whole are one change of it.
* `Lens.Assembled`: lenses put together of lawful ones, to any depth.
* `updates_once_of_lawful`: all of these change the focus of a whole once.
-/
namespace RecordLens

variable {ε σ τ α β : Type}

theorem applyTimes_ok (f : σ → σ) (n : Nat) (s : σ) :
    applyTimes (fun s => (.ok (f s) : Except ε σ)) n s = .ok (f^[n] s) := by
  induction n generalizing s with
  | zero => rfl
  | succ n ih => exact ih (f s)

namespace Lens

theorem modify_of_get {l : Lens ε σ τ} {w : σ} {t : τ} (h : l.get w = .ok t) (f : τ → Except ε τ) :
    l.modify w f = f t >>= l.set w := by
  rw [modify, h]
  rfl

/-! ## Changes behind a setter -/

section
variable {l : Lens ε σ τ} {holds : σ → Prop} (h : l.LawfulOn holds) {w w' : σ} {t : τ}
include h

/-- In a whole that was set, another value is set as in the whole before. -/
theorem LawfulOn.set_again (hw : holds w) (hset : l.set w t = .ok w') : l.set w' = l.set w :=
  funext fun u => h.set_set u hw hset

/-- A function applied behind a setter takes the value that was set, and what it gives is set alone. -/
theorem LawfulOn.modify_set (hw : holds w) (hset : l.set w t = .ok w') (f : τ → Except ε τ) :
    l.modify w' f = f t >>= l.set w := by
  rw [modify_of_get (h.get_set hw hset), h.set_again hw hset]

/-- **A lifted function, applied several times, updates the focus once.** By induction on the number of
    times: the whole that the first application makes satisfies the laws again. -/
theorem LawfulOn.applyTimes_lift (f : τ → Except ε τ) (n : Nat) (hw : holds w)
    (hread : l.get w = .ok t) : applyTimes (l.lift f) n w = applyTimes f n t >>= l.set w := by
  induction n generalizing w t with
  | zero => exact (h.set_get hw hread).symm
  | succ n ih =>
    calc applyTimes (l.lift f) (n + 1) w
        = f t >>= fun t' => l.set w t' >>= applyTimes (l.lift f) n := by
          rw [← bind_assoc, ← modify_of_get hread]
          rfl
      _ = f t >>= fun t' => applyTimes f n t' >>= l.set w := by
          refine bind_congr fun t' => ?_
          obtain ⟨w₁, hset, hw₁⟩ := h.set_ok t' hw
          rw [hset, ← h.set_again hw hset]
          exact ih hw₁ (h.get_set hw hset)
      _ = applyTimes f (n + 1) t >>= l.set w := (bind_assoc (f t) _ _).symm

end

/-! ## One update -/

/-- Changes of the focus of a whole are one change of it. -/
structure UpdatesOnce (l : Lens ε σ τ) (w : σ) : Prop where
  /-- A lifted function, applied several times, sets what the function makes of the focus in as many
      applications. It fails where the function does. -/
  times : ∀ (f : τ → Except ε τ) (n : Nat),
    applyTimes (l.lift f) n w = l.get w >>= fun t => applyTimes f n t >>= l.set w
  /-- With a function that never fails there is such a whole. -/
  iterate : ∀ (f : τ → τ) (n : Nat), ∃ t w', l.get w = .ok t ∧ l.set w (f^[n] t) = .ok w' ∧
    applyTimes (l.lift fun t => .ok (f t)) n w = .ok w'
  modify_modify : ∀ f g : τ → Except ε τ,
    (l.modify w f >>= fun w' => l.modify w' g) = l.modify w fun t => f t >>= g
  modify_ok : l.modify w .ok = .ok w

/-- A lawful lens updates the focus of a whole once. -/
theorem LawfulOn.updatesOnce {l : Lens ε σ τ} {holds : σ → Prop} (h : l.LawfulOn holds) {w : σ}
    (hw : holds w) : l.UpdatesOnce w := by
  obtain ⟨t, hread⟩ := h.get_ok hw
  refine ⟨?_, ?_, ?_, ?_⟩
  · intro f n
    rw [hread]
    exact h.applyTimes_lift f n hw hread
  · intro f n
    obtain ⟨w', hset, -⟩ := h.set_ok (f^[n] t) hw
    refine ⟨t, w', hread, hset, ?_⟩
    rw [h.applyTimes_lift _ n hw hread, applyTimes_ok]
    exact hset
  · intro f g
    rw [modify_of_get hread, modify_of_get hread, bind_assoc, bind_assoc]
    refine bind_congr fun t' => ?_
    obtain ⟨w', hset, -⟩ := h.set_ok t' hw
    rw [hset]
    exact h.modify_set hw hset g
  · rw [modify_of_get hread]
    exact h.set_get hw hread

/-- A lens that is put together, to any depth: of lawful lenses, by focusing through one of them and by
    pairing two whose setters commute. -/
inductive Assembled {ε : Type} : {σ τ : Type} → Lens ε σ τ → Prop
  | lawful {σ τ : Type} {l : Lens ε σ τ} (h : l.Lawful) : Assembled l
  | compose {σ τ α : Type} {outer : Lens ε σ τ} {inner : Lens ε τ α} (ho : Assembled outer)
      (hi : Assembled inner) : Assembled (outer.compose inner)
  | concat {σ α β : Type} {a : Lens ε σ α} {b : Lens ε σ β} (ha : Assembled a) (hb : Assembled b)
      (hcomm : ∀ s, a.CommuteAt b s) : Assembled (a.concat b)

theorem Assembled.isLawful {l : Lens ε σ τ} (h : Assembled l) : l.Lawful := by
  induction h with
  | lawful h => exact h
  | compose _ _ ho hi => exact ho.compose hi
  | concat _ _ hcomm ha hb => exact ha.concat hb hcomm

end Lens

/-- **Any number of changes is one change of the focus.** To apply a lifted function several times sets
    what the function makes of the focus in as many applications; of two functions one after the other,
    the second takes what the first gives; to leave the focus as it is changes nothing. This holds of
    every lawful lens, of the wholes on which a lens is lawful, and of every lens put together. -/
theorem updates_once_of_lawful (l : Lens ε σ τ) :
    (l.Lawful → ∀ w, l.UpdatesOnce w) ∧
    (∀ holds : σ → Prop, l.LawfulOn holds → ∀ w, holds w → l.UpdatesOnce w) ∧
    (l.Assembled → l.Lawful ∧ ∀ w, l.UpdatesOnce w) := by
  have hlawful (h : l.Lawful) (w : σ) : l.UpdatesOnce w := h.on.updatesOnce trivial
  refine ⟨hlawful, ?_, ?_⟩
  · exact fun holds h w hw => h.updatesOnce hw
  · exact fun h => ⟨h.isLawful, hlawful h.isLawful⟩

/-- The left number with the other sign, beside the right one. -/
def turnedNumbers : Lens Fault (Int × Int) (Int × Int) :=
  (leftNumber.compose negatedNumber).concat rightNumber

/-- A tuple with another first item. -/
def withFirst (t : Value) : Value → Value
  | .tuple (_ :: back) => .tuple (t :: back)
  | w => w

/-- The first item of a tuple is no lens of all values, but a lawful one of pairs. -/
theorem firstItem_lawfulOn : (Value.item 0).LawfulOn fun w => ∃ x y, w = .tuple [x, y] := by
  refine .of_update withFirst ?_ ?_ ?_ ?_ ?_ ?_
  · rintro _ ⟨x, y, rfl⟩
    exact ⟨x, rfl⟩
  · rintro _ t ⟨x, y, rfl⟩
    rfl
  · rintro _ t ⟨x, y, rfl⟩
    exact ⟨t, y, rfl⟩
  · rintro _ t ⟨x, y, rfl⟩
    rfl
  · rintro _ t ⟨x, y, rfl⟩ hread
    obtain rfl : x = t := Except.ok.inj hread
    rfl
  · rintro _ t u ⟨x, y, rfl⟩
    rfl

/-- Three times, one number is raised by one and the other doubled. The first number is less than zero
    in the whole, as it is turned. -/
theorem updates_once_of_lawful_turned :
    (leftNumber.Lawful ∧ leftNumber.UpdatesOnce (1, 2)) ∧
    ((Value.item 0).LawfulOn (fun w => ∃ x y, w = .tuple [x, y]) ∧
      (Value.item 0).UpdatesOnce (.tuple [.int 1, .none])) ∧
    turnedNumbers.Assembled ∧ turnedNumbers.Lawful ∧
    applyTimes (turnedNumbers.lift fun t => .ok (t.1 + 1, 2 * t.2)) 3 (1, 1) = .ok (-2, 8) := by
  have hleft : leftNumber.Lawful := fun _ => ⟨fun _ => rfl, rfl, fun _ _ => rfl⟩
  have hright : rightNumber.Lawful := fun _ => ⟨fun _ => rfl, rfl, fun _ _ => rfl⟩
  have hnegated : negatedNumber.Lawful := by
    refine fun s => ⟨fun t => ?_, ?_, fun _ _ => rfl⟩
    · exact congrArg Except.ok (Int.neg_neg t)
    · exact congrArg Except.ok (Int.neg_neg s)
  have hturned : turnedNumbers.Assembled :=
    .concat (.compose (.lawful hleft) (.lawful hnegated)) (.lawful hright) fun _ _ _ => rfl
  obtain ⟨hlawful, hupdates⟩ := (updates_once_of_lawful turnedNumbers).2.2 hturned
  refine ⟨⟨hleft, (updates_once_of_lawful leftNumber).1 hleft (1, 2)⟩, ⟨firstItem_lawfulOn, ?_⟩,
    hturned, hlawful, ?_⟩
  · exact (updates_once_of_lawful (Value.item 0)).2.1 _ firstItem_lawfulOn _ ⟨.int 1, .none, rfl⟩
  · exact (hupdates (1, 1)).times _ 3

end RecordLens
