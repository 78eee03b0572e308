import Mathlib.Data.List.Forall2
/-!
Computations that may fail, taken apart: what must have succeeded where the whole succeeds, and what has
failed where it fails.

* `bind_eq_ok`, `map_eq_ok`: a computation and what is done with its result.
* `mapM_eq_ok_iff`, `mapM_eq_ok`, `exists_mapM_eq_ok`: one computation for each member of a list.
* `bind_eq_error`, `mapM_eq_error_iff`: where the fault comes from.
* `Yields`: what is known of the result, with one rule for each way of putting computations together.
-/
namespace RecordLens

variable {ε α β : Type}

theorem error_ne_ok {x : ε} {a : α} : (.error x : Except ε α) ≠ .ok a := nofun

theorem bind_eq_ok {x : Except ε α} {f : α → Except ε β} {b : β} :
    x >>= f = .ok b ↔ ∃ a, x = .ok a ∧ f a = .ok b := by
  cases x with
  | error e => exact iff_of_false nofun nofun
  | ok a =>
    constructor
    · exact fun h => ⟨a, rfl, h⟩
    · rintro ⟨_, ha, hb⟩
      obtain rfl := Except.ok.inj ha
      exact hb

theorem map_eq_ok {x : Except ε α} {f : α → β} {b : β} :
    x.map f = .ok b ↔ ∃ a, x = .ok a ∧ b = f a := by
  cases x with
  | error e => exact iff_of_false nofun nofun
  | ok a =>
    constructor
    · exact fun h => ⟨a, rfl, (Except.ok.inj h).symm⟩
    · rintro ⟨_, ha, rfl⟩
      obtain rfl := Except.ok.inj ha
      rfl

/-- A list of computations succeeds with the list of their results. -/
theorem mapM_eq_ok_iff {f : α → Except ε β} {l : List α} : ∀ {bs : List β},
    l.mapM f = .ok bs ↔ List.Forall₂ (fun a b => f a = .ok b) l bs := by
  induction l with
  | nil =>
    intro bs
    rw [List.mapM_nil, List.forall₂_nil_left_iff]
    exact ⟨fun h => (Except.ok.inj h).symm, fun h => h ▸ rfl⟩
  | cons a l ih =>
    intro bs
    rw [List.mapM_cons, bind_eq_ok]
    simp only [bind_eq_ok, ih]
    constructor
    · rintro ⟨b, hb, cs, hcs, h⟩
      obtain rfl := Except.ok.inj h
      exact .cons hb hcs
    · intro h
      cases h with
      | cons hb hcs => exact ⟨_, hb, _, hcs, rfl⟩

/-- A function that succeeds on all members of a list. -/
theorem mapM_eq_ok {f : α → Except ε β} {g : α → β} {l : List α}
    (h : ∀ a ∈ l, f a = .ok (g a)) : l.mapM f = .ok (l.map g) := by
  rw [mapM_eq_ok_iff, List.forall₂_map_right_iff, List.forall₂_same]
  exact h

/-- A list of computations that all succeed. -/
theorem exists_mapM_eq_ok {f : α → Except ε β} {l : List α} (h : ∀ a ∈ l, ∃ b, f a = .ok b) :
    ∃ bs, l.mapM f = .ok bs := by
  induction l with
  | nil => exact ⟨[], rfl⟩
  | cons a l ih =>
    obtain ⟨b, hb⟩ := h a List.mem_cons_self
    obtain ⟨bs, hbs⟩ := ih fun x hx => h x (List.mem_cons_of_mem a hx)
    exact ⟨b :: bs, mapM_eq_ok_iff.2 (.cons hb (mapM_eq_ok_iff.1 hbs))⟩

theorem exists_of_mapM_eq_ok {f : α → Except ε β} {l : List α} {bs : List β} (h : l.mapM f = .ok bs) :
    ∀ a ∈ l, ∃ b, f a = .ok b := by
  have hall := mapM_eq_ok_iff.1 h
  clear h
  induction hall with
  | nil => nofun
  | cons hb _ ih => exact List.forall_mem_cons.2 ⟨⟨_, hb⟩, ih⟩

theorem exists_of_mem_mapM {f : α → Except ε β} {l : List α} {bs : List β} (h : l.mapM f = .ok bs)
    {b : β} (hb : b ∈ bs) : ∃ a ∈ l, f a = .ok b := by
  have hall := mapM_eq_ok_iff.1 h
  obtain ⟨i, hi, rfl⟩ := List.getElem_of_mem hb
  have hlt : i < l.length := by rw [hall.length_eq]; exact hi
  exact ⟨l[i], List.getElem_mem hlt, hall.get hlt hi⟩

/-- A fault of the whole is one of the computation or of what is done with its result. -/
theorem bind_eq_error {x : Except ε α} {f : α → Except ε β} {e : ε} :
    x >>= f = .error e ↔ x = .error e ∨ ∃ a, x = .ok a ∧ f a = .error e := by
  cases x with
  | error e' =>
    refine ⟨fun h => .inl (congrArg _ (Except.error.inj h)), ?_⟩
    rintro (h | ⟨a, ha, -⟩)
    · exact congrArg _ (Except.error.inj h)
    · exact absurd ha error_ne_ok
  | ok a =>
    constructor
    · exact fun h => .inr ⟨a, rfl, h⟩
    · rintro (h | ⟨a', ha, h⟩)
      · exact absurd h.symm error_ne_ok
      · obtain rfl := Except.ok.inj ha
        exact h

/-- A list of computations fails with the first fault among them. -/
theorem mapM_eq_error_iff {f : α → Except ε β} {l : List α} {e : ε} : l.mapM f = .error e ↔
    ∃ front a back, l = front ++ a :: back ∧ (∀ x ∈ front, ∃ b, f x = .ok b) ∧ f a = .error e := by
  induction l with
  | nil =>
    refine iff_of_false (fun h => error_ne_ok h.symm) ?_
    rintro ⟨front, a, back, hnil, -⟩
    exact absurd hnil.symm (List.append_ne_nil_of_right_ne_nil front (List.cons_ne_nil a back))
  | cons x l ih =>
    rw [List.mapM_cons, bind_eq_error]
    constructor
    · rintro (hx | ⟨b, hb, h⟩)
      · exact ⟨[], x, l, rfl, nofun, hx⟩
      · rcases bind_eq_error.1 h with h | ⟨_, -, h⟩
        · obtain ⟨front, a, back, rfl, hfront, ha⟩ := ih.1 h
          exact ⟨x :: front, a, back, rfl, List.forall_mem_cons.2 ⟨⟨b, hb⟩, hfront⟩, ha⟩
        · exact absurd h.symm error_ne_ok
    · rintro ⟨front, a, back, hl, hfront, ha⟩
      cases front with
      | nil =>
        obtain ⟨rfl, rfl⟩ := List.cons.inj hl
        exact .inl ha
      | cons y front =>
        obtain ⟨rfl, rfl⟩ := List.cons.inj hl
        obtain ⟨⟨b, hb⟩, hfront⟩ := List.forall_mem_cons.1 hfront
        exact .inr ⟨b, hb, bind_eq_error.2 (.inl (ih.2 ⟨front, a, back, rfl, hfront, ha⟩))⟩

/-! ## Results -/

/-- What a computation gives is as `P` says, if it gives anything. -/
def Yields (c : Except ε α) (P : α → Prop) : Prop := ∀ a, c = .ok a → P a

namespace Yields

variable {c : Except ε α} {P : α → Prop} {Q : β → Prop}

theorem ok {a : α} (h : P a) : Yields (.ok a : Except ε α) P := by
  intro b hb
  obtain rfl := Except.ok.inj hb
  exact h

theorem error (x : ε) : Yields (.error x : Except ε α) P := fun _ h => absurd h error_ne_ok

theorem bind {f : α → Except ε β} (h : Yields c P) (hf : ∀ a, P a → Yields (f a) Q) :
    Yields (c >>= f) Q := by
  intro b hb
  obtain ⟨a, ha, hb⟩ := bind_eq_ok.1 hb
  exact hf a (h a ha) b hb

theorem past {f : α → Except ε β} (hf : ∀ a, Yields (f a) Q) : Yields (c >>= f) Q :=
  bind (P := fun _ => True) (fun _ _ => trivial) fun a _ => hf a

theorem map {f : α → β} (h : Yields c P) (hf : ∀ a, P a → Q (f a)) : Yields (c.map f) Q := by
  intro b hb
  obtain ⟨a, ha, rfl⟩ := map_eq_ok.1 hb
  exact hf a (h a ha)

theorem mapError {ε' : Type} {f : ε → ε'} (h : Yields c P) : Yields (c.mapError f) P := by
  cases c with
  | error x => exact error (f x)
  | ok a => exact ok (h a rfl)

theorem mapM {f : α → Except ε β} {l : List α} (h : ∀ a ∈ l, Yields (f a) Q) :
    Yields (l.mapM f) fun bs => ∀ b ∈ bs, Q b := by
  intro bs hbs b hb
  obtain ⟨a, ha, hb⟩ := exists_of_mem_mapM hbs hb
  exact h a ha b hb

theorem foldlM {f : β → α → Except ε β} {l : List α} (h : ∀ a ∈ l, ∀ b, Q b → Yields (f b a) Q) :
    ∀ {b : β}, Q b → Yields (l.foldlM f b) Q := by
  induction l with
  | nil => exact ok
  | cons a l ih =>
    intro b hb
    rw [List.foldlM_cons]
    exact (h a List.mem_cons_self b hb).bind fun _ hc =>
      ih (fun x hx => h x (List.mem_cons_of_mem a hx)) hc

end Yields

end RecordLens
