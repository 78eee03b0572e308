import RecordLens.Proofs.Composition
import RecordLens.Proofs.LensLaws
import RecordLens.Proofs.Outcome
/-!
Lawful lenses put together. A lens focused through a lawful one is lawful, and two lenses side by side
are lawful where the setter of the one leaves the focus of the other alone. The setter of the second
lens runs last, so its focus always reads back; the focus of the first one does exactly if the second
setter does not move it.

* `Lens.ReadsBack`, `Lens.Restores`, `Lens.Overwrites`: the three laws at a whole, and `Lens.LawfulAt`
  for all of them.
* `Lens.LawfulOn.compose`, `Lens.LawfulOn.concat`: lenses that are lawful where a property holds.
* `Lens.concat_readsBack_iff`: when two lenses side by side read back what was set.
* `lawful_of_parts`: the laws of composed lenses and of lenses side by side.
-/
namespace RecordLens
namespace Lens

variable {ε σ τ α β : Type}

/-! ## Laws -/

/-- What is set in a whole is read back. -/
def ReadsBack (l : Lens ε σ τ) (s : σ) : Prop := ∀ t, (l.set s t >>= l.get) = .ok t

/-- Setting what is read in a whole changes nothing. -/
def Restores (l : Lens ε σ τ) (s : σ) : Prop := (l.get s >>= l.set s) = .ok s

/-- Of two values set one after the other in a whole, the last one counts. -/
def Overwrites (l : Lens ε σ τ) (s : σ) : Prop :=
  ∀ t u, (l.set s t >>= fun s' => l.set s' u) = l.set s u

/-- The lens laws at a whole. A lens that obeys them does not fail there: its setter succeeds by the
    first law and its getter by the second. -/
structure LawfulAt (l : Lens ε σ τ) (s : σ) : Prop where
  readsBack : l.ReadsBack s
  restores : l.Restores s
  overwrites : l.Overwrites s

/-- The lens laws at every whole. -/
def Lawful (l : Lens ε σ τ) : Prop := ∀ s, l.LawfulAt s

/-- The order in which two lenses set values in a whole does not matter. -/
def CommuteAt (a : Lens ε σ α) (b : Lens ε σ β) (s : σ) : Prop :=
  ∀ t u, (a.set s t >>= fun s' => b.set s' u) = (b.set s u >>= fun s' => a.set s' t)

theorem ReadsBack.set_ok {l : Lens ε σ τ} {s : σ} (h : l.ReadsBack s) (t : τ) :
    ∃ s', l.set s t = .ok s' ∧ l.get s' = .ok t := bind_eq_ok.1 (h t)

theorem Restores.get_ok {l : Lens ε σ τ} {s : σ} (h : l.Restores s) :
    ∃ t, l.get s = .ok t ∧ l.set s t = .ok s := bind_eq_ok.1 h

section
variable {holds : σ → Prop} {s : σ}

theorem LawfulOn.at {l : Lens ε σ τ} (h : l.LawfulOn holds) (hs : holds s) : l.LawfulAt s := by
  refine ⟨?_, ?_, ?_⟩
  · intro t
    obtain ⟨s', hs', -⟩ := h.set_ok t hs
    exact bind_eq_ok.2 ⟨s', hs', h.get_set hs hs'⟩
  · obtain ⟨t, ht⟩ := h.get_ok hs
    exact bind_eq_ok.2 ⟨t, ht, h.set_get hs ht⟩
  · intro t u
    obtain ⟨s', hs', -⟩ := h.set_ok t hs
    rw [hs']
    exact h.set_set u hs hs'

theorem CommuteOn.at {a : Lens ε σ α} {b : Lens ε σ β} (h : a.CommuteOn b holds) (hs : holds s) :
    a.CommuteAt b s := by
  intro t u
  obtain ⟨s', -, hforth, hback⟩ := h s t u hs
  exact hforth.trans hback.symm

end

theorem SameAs.lawfulOn {a b : Lens ε σ τ} (h : a.SameAs b) {holds : σ → Prop}
    (hb : b.LawfulOn holds) : a.LawfulOn holds where
  get_ok {s} hs := h.get s ▸ hb.get_ok hs
  set_ok {s} t hs := h.set s t ▸ hb.set_ok t hs
  get_set {s t s'} hs hset := h.get s' ▸ hb.get_set hs (h.set s t ▸ hset)
  set_get {s t} hs hget := h.set s t ▸ hb.set_get hs (h.get s ▸ hget)
  set_set {s t s'} u hs hset := by
    rw [h.set s t] at hset
    rw [h.set s' u, h.set s u]
    exact hb.set_set u hs hset

theorem LawfulOn.keeping {l : Lens ε σ τ} {holds kept : σ → Prop} (h : l.LawfulOn holds)
    (hkept : ∀ s t s', holds s → kept s → l.set s t = .ok s' → kept s') :
    l.LawfulOn fun s => holds s ∧ kept s where
  get_ok hs := h.get_ok hs.1
  set_ok {s} t hs := by
    obtain ⟨s', hset, hs'⟩ := h.set_ok t hs.1
    exact ⟨s', hset, hs', hkept s t s' hs.1 hs.2 hset⟩
  get_set hs := h.get_set hs.1
  set_get hs := h.set_get hs.1
  set_set u hs := h.set_set u hs.1

theorem Lawful.on {l : Lens ε σ τ} (h : l.Lawful) : l.LawfulOn fun _ => True where
  get_ok {s} _ := (h s).restores.get_ok.imp fun _ ht => ht.1
  set_ok {s} t _ := ((h s).readsBack.set_ok t).imp fun _ hs' => ⟨hs'.1, trivial⟩
  get_set {s t s'} _ hset := by
    have hback := (h s).readsBack t
    rwa [hset] at hback
  set_get {s t} _ hget := by
    have hsame : (l.get s >>= l.set s) = .ok s := (h s).restores
    rwa [hget] at hsame
  set_set {s t s'} u _ hset := by
    have hlast := (h s).overwrites t u
    rwa [hset] at hlast

/-- Setters that never fail and commute at every whole do so where nothing is asked for. -/
theorem commuteOn_of_commuteAt {a : Lens ε σ α} {b : Lens ε σ β} (h : ∀ s, a.CommuteAt b s)
    (ha : ∀ s, a.ReadsBack s) (hb : ∀ s, b.ReadsBack s) : a.CommuteOn b fun _ => True := by
  intro s t u _
  obtain ⟨s₁, hs₁, -⟩ := (ha s).set_ok t
  obtain ⟨s₂, hs₂, -⟩ := (hb s₁).set_ok u
  have hfirst : (a.set s t >>= fun s' => b.set s' u) = .ok s₂ := bind_eq_ok.2 ⟨s₁, hs₁, hs₂⟩
  exact ⟨s₂, trivial, hfirst, (h s t u).symm.trans hfirst⟩

/-! ## Focusing through a lens -/

/-- **A lens focused through a lawful one is lawful**, on the wholes whose outer focus is one on which
    the inner lens is lawful. -/
theorem LawfulOn.compose {outer : Lens ε σ τ} {inner : Lens ε τ α} {holds : σ → Prop}
    {inside : τ → Prop} (ho : outer.LawfulOn holds) (hi : inner.LawfulOn inside) :
    (outer.compose inner).LawfulOn fun s => holds s ∧ ∃ t, outer.get s = .ok t ∧ inside t where
  get_ok := by
    rintro s ⟨-, t, ht, hinside⟩
    obtain ⟨x, hx⟩ := hi.get_ok hinside
    exact ⟨x, bind_eq_ok.2 ⟨t, ht, hx⟩⟩
  set_ok := by
    rintro s x ⟨hs, t, ht, hinside⟩
    obtain ⟨t', ht', hinside'⟩ := hi.set_ok x hinside
    obtain ⟨s', hs', hholds⟩ := ho.set_ok t' hs
    exact ⟨s', bind_eq_ok.2 ⟨t, ht, bind_eq_ok.2 ⟨t', ht', hs'⟩⟩,
      hholds, t', ho.get_set hs hs', hinside'⟩
  get_set := by
    rintro s x s' ⟨hs, t, ht, hinside⟩ hset
    obtain ⟨_, ht₁, hset⟩ := bind_eq_ok.1 hset
    obtain rfl := Except.ok.inj (ht.symm.trans ht₁)
    obtain ⟨t', ht', hs'⟩ := bind_eq_ok.1 hset
    exact bind_eq_ok.2 ⟨t', ho.get_set hs hs', hi.get_set hinside ht'⟩
  set_get := by
    rintro s x ⟨hs, t, ht, hinside⟩ hget
    obtain ⟨_, ht₁, hx⟩ := bind_eq_ok.1 hget
    obtain rfl := Except.ok.inj (ht.symm.trans ht₁)
    exact bind_eq_ok.2 ⟨t, ht, bind_eq_ok.2 ⟨t, hi.set_get hinside hx, ho.set_get hs ht⟩⟩
  set_set := by
    rintro s x s' y ⟨hs, t, ht, hinside⟩ hset
    obtain ⟨_, ht₁, hset⟩ := bind_eq_ok.1 hset
    obtain rfl := Except.ok.inj (ht.symm.trans ht₁)
    obtain ⟨t', ht', hs'⟩ := bind_eq_ok.1 hset
    -- the outer focus of the new whole is what the inner setter made
    have hfocus : outer.get s' = .ok t' := ho.get_set hs hs'
    have hinner : inner.set t' y = inner.set t y := hi.set_set y hinside ht'
    calc (outer.compose inner).set s' y
        = inner.set t' y >>= outer.set s' := compose_set_ok hfocus inner y
      _ = inner.set t y >>= outer.set s := by
          rw [hinner]
          exact bind_congr fun z => ho.set_set z hs hs'
      _ = (outer.compose inner).set s y := (compose_set_ok ht inner y).symm

/-! ## Two lenses side by side -/

theorem concat_set (a : Lens ε σ α) (b : Lens ε σ β) (s : σ) (t : α) (u : β) :
    (a.concat b).set s (t, u) = a.set s t >>= fun s' => b.set s' u := rfl

theorem concat_get (a : Lens ε σ α) (b : Lens ε σ β) {s : σ} {t : α} {u : β}
    (ha : a.get s = .ok t) (hb : b.get s = .ok u) : (a.concat b).get s = .ok (t, u) :=
  bind_eq_ok.2 ⟨t, ha, bind_eq_ok.2 ⟨u, hb, rfl⟩⟩

/-- **Two lawful lenses whose setters commute are lawful side by side.** -/
theorem LawfulOn.concat {a : Lens ε σ α} {b : Lens ε σ β} {holds : σ → Prop}
    (ha : a.LawfulOn holds) (hb : b.LawfulOn holds) (hcomm : a.CommuteOn b holds) :
    (a.concat b).LawfulOn holds where
  get_ok := by
    intro s hs
    obtain ⟨t, ht⟩ := ha.get_ok hs
    obtain ⟨u, hu⟩ := hb.get_ok hs
    exact ⟨(t, u), concat_get a b ht hu⟩
  set_ok := by
    rintro s ⟨t, u⟩ hs
    obtain ⟨s₁, hs₁, h₁⟩ := ha.set_ok t hs
    obtain ⟨s₂, hs₂, h₂⟩ := hb.set_ok u h₁
    exact ⟨s₂, (concat_set a b s t u).trans (bind_eq_ok.2 ⟨s₁, hs₁, hs₂⟩), h₂⟩
  get_set := by
    rintro s ⟨t, u⟩ s₂ hs hset
    rw [concat_set] at hset
    obtain ⟨s₁, hs₁, hs₂⟩ := bind_eq_ok.1 hset
    obtain ⟨s₁', hs₁', h₁⟩ := ha.set_ok t hs
    obtain rfl := Except.ok.inj (hs₁.symm.trans hs₁')
    -- in the other order, the first lens is the one that sets last
    obtain ⟨s', -, hforth, hback⟩ := hcomm s t u hs
    obtain rfl := Except.ok.inj (hset.symm.trans hforth)
    obtain ⟨s₃, hs₃, hlast⟩ := bind_eq_ok.1 hback
    obtain ⟨s₃', hs₃', h₃⟩ := hb.set_ok u hs
    obtain rfl := Except.ok.inj (hs₃.symm.trans hs₃')
    exact concat_get a b (ha.get_set h₃ hlast) (hb.get_set h₁ hs₂)
  set_get := by
    rintro s ⟨t, u⟩ hs hget
    obtain ⟨t', ht, hget⟩ := bind_eq_ok.1 hget
    obtain ⟨u', hu, hpair⟩ := bind_eq_ok.1 hget
    obtain ⟨rfl, rfl⟩ := Prod.mk.inj (Except.ok.inj hpair)
    rw [concat_set]
    exact bind_eq_ok.2 ⟨s, ha.set_get hs ht, hb.set_get hs hu⟩
  set_set := by
    rintro s ⟨t, u⟩ s₂ ⟨t', u'⟩ hs hset
    rw [concat_set] at hset
    obtain ⟨s₁, hs₁, hs₂⟩ := bind_eq_ok.1 hset
    obtain ⟨s₁', hs₁', h₁⟩ := ha.set_ok t hs
    obtain rfl := Except.ok.inj (hs₁.symm.trans hs₁')
    -- `x` has the new first value only, and `y` the old second one besides
    obtain ⟨x, hx, hxholds⟩ := ha.set_ok t' h₁
    obtain ⟨y, -, hforth, hback⟩ := hcomm s₁ t' u h₁
    have hy : b.set x u = .ok y := by rwa [hx] at hforth
    have hy' : a.set s₂ t' = .ok y := by rwa [hs₂] at hback
    have hagain : a.set s t' = .ok x := (ha.set_set t' hs hs₁).symm.trans hx
    calc (a.concat b).set s₂ (t', u')
        = b.set y u' := by rw [concat_set, hy']; rfl
      _ = b.set x u' := hb.set_set u' hxholds hy
      _ = (a.concat b).set s (t', u') := by rw [concat_set, hagain]; rfl

section
variable {a : Lens ε σ α} {b : Lens ε σ β}

theorem Restores.concat {s : σ} (ha : a.Restores s) (hb : b.Restores s) :
    (a.concat b).Restores s := by
  obtain ⟨t, ht, hsame⟩ := ha.get_ok
  obtain ⟨u, hu, hsame'⟩ := hb.get_ok
  have hset : (a.concat b).set s (t, u) = .ok s :=
    (concat_set a b s t u).trans (bind_eq_ok.2 ⟨s, hsame, hsame'⟩)
  exact bind_eq_ok.2 ⟨(t, u), concat_get a b ht hu, hset⟩

variable (ha : ∀ s, a.ReadsBack s) (hb : ∀ s, b.ReadsBack s)
include ha hb

/-- What is read after setting two values: the second one as it was set, and for the first one what its
    lens reads behind the setter of the second. -/
theorem concat_set_bind_get (s : σ) (t : α) (u : β) :
    ∃ s₁, a.set s t = .ok s₁ ∧ a.get s₁ = .ok t ∧
      ((a.concat b).set s (t, u) >>= (a.concat b).get) =
        (b.set s₁ u >>= a.get) >>= fun t' => .ok (t', u) := by
  obtain ⟨s₁, hs₁, hread⟩ := (ha s).set_ok t
  obtain ⟨s₂, hs₂, hlast⟩ := (hb s₁).set_ok u
  refine ⟨s₁, hs₁, hread, ?_⟩
  have hset : (a.concat b).set s (t, u) = .ok s₂ :=
    (concat_set a b s t u).trans (bind_eq_ok.2 ⟨s₁, hs₁, hs₂⟩)
  rw [hset, hs₂]
  change (a.get s₂ >>= fun t' => b.get s₂ >>= fun u' => .ok (t', u')) =
    a.get s₂ >>= fun t' => .ok (t', u)
  rw [hlast]
  rfl

theorem concat_second_readsBack (hget : ∀ s, a.Restores s) (s : σ) (p : α × β) :
    ∃ t, ((a.concat b).set s p >>= (a.concat b).get) = .ok (t, p.2) := by
  obtain ⟨t, u⟩ := p
  obtain ⟨s₁, -, -, heq⟩ := concat_set_bind_get ha hb s t u
  obtain ⟨s₂, hs₂, -⟩ := (hb s₁).set_ok u
  obtain ⟨t', ht', -⟩ := (hget s₂).get_ok
  refine ⟨t', ?_⟩
  rw [heq, hs₂]
  exact bind_eq_ok.2 ⟨t', ht', rfl⟩

/-- **Two lenses side by side read back what was set exactly if the second one leaves the focus of the
    first one alone.** -/
theorem concat_readsBack_iff (hget : ∀ s, a.Restores s) :
    (∀ s, (a.concat b).ReadsBack s) ↔ ∀ s u, (b.set s u >>= a.get) = a.get s := by
  constructor
  · intro h s u
    -- the whole itself is what setting its own first focus gives
    obtain ⟨t, ht, hsame⟩ := (hget s).get_ok
    obtain ⟨s₁, hs₁, -, heq⟩ := concat_set_bind_get ha hb s t u
    obtain rfl := Except.ok.inj (hsame.symm.trans hs₁)
    obtain ⟨t', ht', hpair⟩ := bind_eq_ok.1 (heq.symm.trans (h s (t, u)))
    obtain ⟨rfl, -⟩ := Prod.mk.inj (Except.ok.inj hpair)
    exact ht'.trans ht.symm
  · rintro h s ⟨t, u⟩
    obtain ⟨s₁, -, hread, heq⟩ := concat_set_bind_get ha hb s t u
    rw [heq, h s₁ u, hread]
    rfl

end

/-! ## The laws of what is put together -/

theorem Lawful.compose {outer : Lens ε σ τ} {inner : Lens ε τ α} (ho : outer.Lawful)
    (hi : inner.Lawful) : (outer.compose inner).Lawful := by
  intro s
  obtain ⟨t, ht, -⟩ := (ho s).restores.get_ok
  exact (ho.on.compose hi.on).at ⟨trivial, t, ht, trivial⟩

theorem Lawful.concat {a : Lens ε σ α} {b : Lens ε σ β} (ha : a.Lawful) (hb : b.Lawful)
    (hcomm : ∀ s, a.CommuteAt b s) : (a.concat b).Lawful := by
  have hon : a.CommuteOn b fun _ => True :=
    commuteOn_of_commuteAt hcomm (fun s => (ha s).readsBack) (fun s => (hb s).readsBack)
  exact fun s => (ha.on.concat hb.on hon).at trivial

end Lens

variable {ε σ τ α β : Type}

/-- **Laws of lenses put together.** A lens focused through a lawful one is lawful. Of two lenses side
    by side that read back and restore, the pair restores, its second component always reads back, and
    both do exactly if the second setter never changes the first focus. If the two are lawful and their
    setters commute, the pair is lawful and sets alike in either order. -/
theorem lawful_of_parts (outer : Lens ε σ τ) (inner : Lens ε τ α) (a : Lens ε σ α)
    (b : Lens ε σ β) :
    (outer.Lawful → inner.Lawful → (outer.compose inner).Lawful) ∧
    ((∀ s, a.ReadsBack s) → (∀ s, a.Restores s) → (∀ s, b.ReadsBack s) → (∀ s, b.Restores s) →
      (∀ s, (a.concat b).Restores s) ∧
      (∀ s p, ∃ t, ((a.concat b).set s p >>= (a.concat b).get) = .ok (t, p.2)) ∧
      ((∀ s, (a.concat b).ReadsBack s) ↔ ∀ s u, (b.set s u >>= a.get) = a.get s)) ∧
    (a.Lawful → b.Lawful → (∀ s, a.CommuteAt b s) →
      (a.concat b).Lawful ∧
      ∀ s t u, (a.concat b).set s (t, u) = (b.concat a).set s (u, t)) := by
  refine ⟨Lens.Lawful.compose, ?_, ?_⟩
  · intro ha hga hb hgb
    exact ⟨fun s => (hga s).concat (hgb s), Lens.concat_second_readsBack ha hb hga,
      Lens.concat_readsBack_iff ha hb hga⟩
  · intro ha hb hcomm
    exact ⟨ha.concat hb hcomm, fun s t u => hcomm s t u⟩

/-! ## Lenses of two numbers -/

/-- The lens of the first number of a pair. -/
def leftNumber : Lens Fault (Int × Int) Int where
  get whole := .ok whole.1
  set whole target := .ok (target, whole.2)

/-- The lens of the second number of a pair. -/
def rightNumber : Lens Fault (Int × Int) Int where
  get whole := .ok whole.2
  set whole target := .ok (whole.1, target)

/-- The sum of two numbers, set through the left one: it moves the focus of `leftNumber`. -/
def numberSum : Lens Fault (Int × Int) Int where
  get whole := .ok (whole.1 + whole.2)
  set whole target := .ok (target - whole.2, whole.2)

/-- A number seen with the other sign. -/
def negatedNumber : Lens Fault Int Int where
  get whole := .ok (-whole)
  set _ target := .ok (-target)

/-- Left and right do not interfere, left and sum do; each lens on its own is lawful. -/
theorem lawful_of_parts_numbers :
    (leftNumber.Lawful ∧ negatedNumber.Lawful ∧ (leftNumber.compose negatedNumber).Lawful) ∧
    (rightNumber.Lawful ∧ (∀ s, leftNumber.CommuteAt rightNumber s) ∧
      (leftNumber.concat rightNumber).Lawful ∧
      (leftNumber.concat rightNumber).set (1, 2) (3, 4) =
        (rightNumber.concat leftNumber).set (1, 2) (4, 3)) ∧
    numberSum.Lawful ∧ (∀ s, (leftNumber.concat numberSum).Restores s) ∧
      (∃ t, ((leftNumber.concat numberSum).set (1, 2) (3, 4) >>=
        (leftNumber.concat numberSum).get) = .ok (t, 4)) ∧
      ¬∀ s, (leftNumber.concat numberSum).ReadsBack s := by
  have hleft : leftNumber.Lawful := fun _ => ⟨fun _ => rfl, rfl, fun _ _ => rfl⟩
  have hright : rightNumber.Lawful := fun _ => ⟨fun _ => rfl, rfl, fun _ _ => rfl⟩
  have hnegated : negatedNumber.Lawful := by
    refine fun s => ⟨fun t => ?_, ?_, fun _ _ => rfl⟩
    · exact congrArg Except.ok (Int.neg_neg t)
    · exact congrArg Except.ok (Int.neg_neg s)
  have hsum : numberSum.Lawful := by
    refine fun s => ⟨fun t => ?_, ?_, fun _ _ => rfl⟩
    · exact congrArg Except.ok (Int.sub_add_cancel t s.2)
    · exact congrArg (fun n => Except.ok (n, s.2)) (Int.add_sub_cancel s.1 s.2)
  have hcomm : ∀ s, leftNumber.CommuteAt rightNumber s := fun _ _ _ => rfl
  obtain ⟨hcompose, -, hconcat⟩ := lawful_of_parts leftNumber negatedNumber leftNumber rightNumber
  obtain ⟨-, hpair, -⟩ := lawful_of_parts leftNumber negatedNumber leftNumber numberSum
  obtain ⟨hlawful, hswap⟩ := hconcat hleft hright hcomm
  obtain ⟨hrestores, hsecond, hiff⟩ :=
    hpair (fun s => (hleft s).readsBack) (fun s => (hleft s).restores)
      (fun s => (hsum s).readsBack) (fun s => (hsum s).restores)
  refine ⟨⟨hleft, hnegated, hcompose hleft hnegated⟩, ⟨hright, hcomm, hlawful, hswap (1, 2) 3 4⟩,
    hsum, hrestores, hsecond (1, 2) (3, 4), fun hback => ?_⟩
  exact absurd (hiff.1 hback (0, 0) 1) (by decide)

end RecordLens
