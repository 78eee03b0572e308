import RecordLens.Code.Reading
/-!
Readers go forward. What a reader finds ends where it begins or later, and if all that is remembered
of phrases is as promised, it still is when the reader has come to its end. What a reader gives can be
computed along its parts, so both hold of a grammar that is put together from the readers here.

* `Phrase.Promise`: what is promised of the results of phrases.
* `Reading.Gives`: what a reader gives that starts at a token, with a rule for each way of combining
  readers.
* `Forward`: the readers that go forward.
* `inMode_gives`: remembering results keeps promises.
-/
namespace RecordLens.Code

/-- What is promised of the results of phrases: of the tokens, a phrase, its result, and the numbers of
    the tokens before which it begins and ends. -/
abbrev Phrase.Promise : Type := Array Token → (p : Phrase) → p.Result → Nat → Nat → Prop

/-- All that is remembered is as promised. -/
def Notes.Keeps (promise : Phrase.Promise) (tokens : Array Token) (n : Notes) : Prop :=
  ∀ place p a stop, Reading.Notes.known n place p = some (some (a, stop)) →
    place ≤ stop ∧ promise tokens p a place stop

section
variable {α β : Type} (promise : Phrase.Promise) (tokens : Array Token)

/-- An outcome of reading from `start` on: what is found does not end before that and is as `post`
    says, and what is remembered is as promised. A fault ends all reading. -/
def Outcome.Within (start : Nat) (post : α → Nat → Prop) : Outcome α → Prop
  | .found a stop n => n.Keeps promise tokens ∧ start ≤ stop ∧ post a stop
  | .absent n => n.Keeps promise tokens
  | .fault _ _ => True

end

/-- Phrases are read as promised. -/
def Setting.Keeps (promise : Phrase.Promise) (e : Setting) : Prop :=
  ∀ p i n, n.Keeps promise e.list.tokens →
    (e.read p i n).Within promise e.list.tokens i (promise e.list.tokens p · i ·)

variable {α β : Type} {promise : Phrase.Promise}

/-- What a reader gives that starts at the token `i`. -/
def Reading.Gives (promise : Phrase.Promise) (e : Setting) (i : Nat) (p : Reading α)
    (post : α → Nat → Prop) : Prop :=
  ∀ n, n.Keeps promise e.list.tokens → (p e i n).Within promise e.list.tokens i post

/-! ## Memory -/

section
open Reading

theorem known_memorize (p q : Phrase) (result : Option (p.Result × Nat)) (rs : List Remembered) :
    known q (memorize ⟨p, result⟩ rs) = if h : p = q then some (h ▸ result) else known q rs := by
  induction rs with
  | nil => simp only [memorize, known]
  | cons r rs ih =>
    simp only [memorize]
    split
    · rename_i hr
      simp only [known]
      split
      · rfl
      · rename_i hne
        rw [dif_neg (fun h => hne (hr ▸ h))]
    · rename_i hr
      simp only [known, ih]
      split
      · rename_i hrq
        rw [dif_neg (fun h => hr (hrq.trans h.symm))]
      · rfl

theorem Notes.Keeps.remember {tokens : Array Token} {n : Notes} (hn : n.Keeps promise tokens)
    {place : Nat} {p : Phrase} {result : Option (p.Result × Nat)}
    (hnew : ∀ a stop, result = some (a, stop) → place ≤ stop ∧ promise tokens p a place stop) :
    (Notes.remember n place ⟨p, result⟩).Keeps promise tokens := by
  intro place' q b stop h
  rw [Notes.known, Notes.remember, Array.getD_eq_getD_getElem?, Array.getElem?_modify] at h
  by_cases hplace : place = place'
  · subst hplace
    rw [if_pos rfl] at h
    cases hrs : n.memory[place]? with
    | none =>
      rw [hrs] at h
      exact absurd h nofun
    | some rs =>
      rw [hrs, Option.map_some, Option.getD_some, known_memorize] at h
      split at h
      · rename_i hp
        subst hp
        exact hnew b stop (Option.some.inj h)
      · refine hn place q b stop ?_
        rw [Notes.known, Array.getD_eq_getD_getElem?, hrs]
        exact h
  · rw [if_neg hplace, ← Array.getD_eq_getD_getElem?] at h
    exact hn place' q b stop h

end

/-! ## What readers give -/

namespace Outcome

variable {tokens : Array Token} {i : Nat} {P Q : α → Nat → Prop}

theorem Within.mono {o : Outcome α} (h : o.Within promise tokens i P)
    (hPQ : ∀ a j, i ≤ j → P a j → Q a j) : o.Within promise tokens i Q := by
  cases o with
  | found a j n => exact ⟨h.1, h.2.1, hPQ a j h.2.1 h.2.2⟩
  | absent n => exact h
  | fault x n => trivial

theorem Within.from_le {o : Outcome α} {k : Nat} (h : o.Within promise tokens k P) (hik : i ≤ k) :
    o.Within promise tokens i P := by
  cases o with
  | found a j n => exact ⟨h.1, Nat.le_trans hik h.2.1, h.2.2⟩
  | absent n => exact h
  | fault x n => trivial

end Outcome

namespace Reading.Gives

variable {e : Setting} {i : Nat} {P : α → Nat → Prop} {Q : β → Nat → Prop} {p : Reading α}

theorem mono (hp : p.Gives promise e i P) {P' : α → Nat → Prop} (h : ∀ a j, i ≤ j → P a j → P' a j) :
    p.Gives promise e i P' :=
  fun n hn => (hp n hn).mono h

theorem pure {a : α} (h : P a i) : (pure a : Reading α).Gives promise e i P :=
  fun _ hn => ⟨hn, Nat.le_refl i, h⟩

theorem absent : (Reading.absent : Reading α).Gives promise e i P := fun _ hn => hn

theorem refuseAt (line : Nat) : (Reading.refuseAt line : Reading α).Gives promise e i P :=
  fun _ _ => trivial

theorem refuseHere : (Reading.refuseHere : Reading α).Gives promise e i P := fun _ _ => trivial

/-- Once the first reader has found something, or nothing, the rest decides. -/
theorem commit {f : α → Reading β} {q : Reading β} (hp : p.Gives promise e i P)
    (hf : ∀ a j, i ≤ j → P a j → (f a).Gives promise e j Q) (hq : q.Gives promise e i Q) :
    (Reading.commit p f q).Gives promise e i Q := by
  intro n hn
  have hfirst := hp n hn
  unfold Reading.commit
  generalize p e i n = outcome at hfirst ⊢
  cases outcome with
  | found a j n' => exact (hf a j hfirst.2.1 hfirst.2.2 n' hfirst.1).from_le hfirst.2.1
  | absent n' => exact hq n' hfirst
  | fault x n' => trivial

theorem bind {f : α → Reading β} (hp : p.Gives promise e i P)
    (hf : ∀ a j, i ≤ j → P a j → (f a).Gives promise e j Q) : (p >>= f).Gives promise e i Q :=
  hp.commit hf absent

theorem orElse {q : Reading α} (hp : p.Gives promise e i P) (hq : q.Gives promise e i P) :
    (p <|> q).Gives promise e i P := by
  intro n hn
  have hfirst := hp n hn
  show Outcome.Within _ _ _ _ (Reading.orElse p (fun _ => q) e i n)
  unfold Reading.orElse
  generalize p e i n = outcome at hfirst ⊢
  cases outcome with
  | found a j n' => exact hfirst
  | absent n' => exact hq n' hfirst
  | fault x n' => trivial

theorem option {P : Option α → Nat → Prop} (hp : p.Gives promise e i fun a j => P (some a) j)
    (hnone : P none i) : (Reading.option p).Gives promise e i P :=
  hp.commit (fun _ _ _ h => pure h) (pure hnone)

theorem ahead {P : Unit → Nat → Prop} (hp : p.Gives promise e i fun _ _ => P () i) :
    (Reading.ahead p).Gives promise e i P := by
  intro n hn
  have hfirst := hp n hn
  unfold Reading.ahead
  generalize p e i n = outcome at hfirst ⊢
  cases outcome with
  | found a j n' => exact ⟨hfirst.1, Nat.le_refl i, hfirst.2.2⟩
  | absent n' => exact hfirst
  | fault x n' => trivial

theorem notAhead {P : Unit → Nat → Prop} (hp : p.Gives promise e i fun _ _ => True)
    (h : P () i) : (Reading.notAhead p).Gives promise e i P := by
  intro n hn
  have hfirst := hp n hn
  unfold Reading.notAhead
  generalize p e i n = outcome at hfirst ⊢
  cases outcome with
  | found a j n' => exact hfirst.1
  | absent n' => exact ⟨hfirst, Nat.le_refl i, h⟩
  | fault x n' => trivial

theorem trap {p : Reading Unit} (hp : p.Gives promise e i fun _ _ => True) :
    (Reading.trap p : Reading α).Gives promise e i P := by
  intro n hn
  have hfirst := hp n hn
  unfold Reading.trap
  split
  · generalize p e i n = outcome at hfirst ⊢
    cases outcome with
    | found a j n' => exact hfirst.1
    | absent n' => exact hfirst
    | fault x n' => trivial
  · exact hn

theorem withoutTraps (hp : p.Gives promise e i P) :
    (Reading.withoutTraps p).Gives promise e i P := by
  intro n hn
  have hfirst := hp { n with traps := false } hn
  unfold Reading.withoutTraps
  dsimp only
  generalize p e i { n with traps := false } = outcome at hfirst ⊢
  cases outcome with
  | found a j n' => exact hfirst
  | absent n' => exact hfirst
  | fault x n' => trivial

theorem many {P : Nat → List α → Nat → Prop} (hnil : ∀ j, P j [] j)
    (hp : ∀ j, i ≤ j → p.Gives promise e j fun a k => ∀ as l, k ≤ l → P k as l → P j (a :: as) l) :
    (Reading.many p).Gives promise e i (P i) := by
  have hupTo : ∀ fuel j, i ≤ j → (Reading.upTo p fuel).Gives promise e j (P j) := by
    intro fuel
    induction fuel with
    | zero => exact fun j _ => pure (hnil j)
    | succ fuel ih =>
      intro j hj
      refine (hp j hj).commit (fun a k hjk ha => ?_) (pure (hnil j))
      exact (ih k (Nat.le_trans hj hjk)).bind fun as l hkl has => pure (ha as l hkl has)
  intro n hn
  exact hupTo _ i (Nat.le_refl i) n hn

/-- A first one and some more, where what is known of one stays so however far reading goes on. -/
theorem cons_all {Q : α → Nat → Prop} (hlater : ∀ a j k, j ≤ k → Q a j → Q a k) {a : α} {as : List α}
    {j k : Nat} (hjk : j ≤ k) (ha : Q a j) (has : ∀ b ∈ as, Q b k) : ∀ b ∈ a :: as, Q b k := by
  rintro b (- | ⟨-, hb⟩)
  · exact hlater a j k hjk ha
  · exact has b hb

theorem many_all {Q : α → Nat → Prop} (hlater : ∀ a j k, j ≤ k → Q a j → Q a k)
    (hp : ∀ j, i ≤ j → p.Gives promise e j Q) :
    (Reading.many p).Gives promise e i fun as k => ∀ a ∈ as, Q a k := by
  refine many (P := fun _ as k => ∀ a ∈ as, Q a k) (fun _ _ ha => absurd ha List.not_mem_nil)
    fun j hj => (hp j hj).mono fun a k _ ha as l hkl has => ?_
  exact cons_all hlater hkl ha has

theorem many1_all {Q : α → Nat → Prop} (hlater : ∀ a j k, j ≤ k → Q a j → Q a k)
    (hp : ∀ j, i ≤ j → p.Gives promise e j Q) :
    (Reading.many1 p).Gives promise e i fun as k => ∀ a ∈ as, Q a k := by
  refine (hp i (Nat.le_refl i)).bind fun a j hij ha => ?_
  refine (many_all hlater fun k hk => hp k (Nat.le_trans hij hk)).bind fun as k hjk has => ?_
  exact pure (cons_all hlater hjk ha has)

/-- What stands between does not matter, as long as it keeps the promise. -/
theorem separated_all {separator : Reading β} {Q : α → Nat → Prop}
    (hlater : ∀ a j k, j ≤ k → Q a j → Q a k)
    (hseparator : ∀ j, i ≤ j → separator.Gives promise e j fun _ _ => True)
    (hp : ∀ j, i ≤ j → p.Gives promise e j Q) :
    (Reading.separated separator p).Gives promise e i fun as k => ∀ a ∈ as, Q a k := by
  unfold Reading.separated
  refine (hp i (Nat.le_refl i)).bind fun a j hij ha => ?_
  have hmore : ∀ k, j ≤ k →
      (do let _ ← separator; p : Reading α).Gives promise e k Q := fun k hk =>
    (hseparator k (Nat.le_trans hij hk)).bind fun _ l hkl _ =>
      hp l (Nat.le_trans (Nat.le_trans hij hk) hkl)
  refine (many_all hlater hmore).bind fun as k hjk has => ?_
  exact pure (cons_all hlater hjk ha has)

theorem peek {P : Token → Nat → Prop} (h : ∀ t, e.list.tokens[i]? = some t → P t i) :
    Reading.peek.Gives promise e i P := by
  intro n hn
  unfold Reading.peek
  dsimp only
  split
  · exact ⟨hn, Nat.le_refl i, h _ ‹_›⟩
  · trivial

theorem tokenIf {test : Token → Bool} {P : Token → Nat → Prop}
    (h : ∀ t, e.list.tokens[i]? = some t → test t = true → P t (i + 1)) :
    (Reading.tokenIf test).Gives promise e i P := by
  intro n hn
  have hpeek : Reading.peek.Gives promise e i fun t _ => e.list.tokens[i]? = some t :=
    peek fun _ ht => ht
  have hnext := hpeek n hn
  unfold Reading.tokenIf
  generalize Reading.peek e i n = outcome at hnext ⊢
  cases outcome with
  | found t j n' =>
    dsimp only
    split
    · exact ⟨hnext.1, Nat.le_succ i, h t hnext.2.2 ‹_›⟩
    · exact hnext.1
  | absent n' => exact hnext
  | fault x n' => trivial

/-- The stretch of code that a reader takes begins with its first token and ends with its last. -/
theorem spanned {p : Reading (Span → α)}
    (hp : ∀ first, e.list.tokens[i]? = some first → p.Gives promise e i fun build j =>
      P (build (first.span.to (lastSpan e.list.tokens j))) j) :
    (Reading.spanned p).Gives promise e i P := by
  have hpeek : Reading.peek.Gives promise e i fun t j => e.list.tokens[i]? = some t ∧ j = i :=
    peek fun _ ht => ⟨ht, rfl⟩
  refine hpeek.bind ?_
  rintro first j - ⟨hfirst, rfl⟩
  refine bind (hp first hfirst) fun build k hjk hbuild n hn => ?_
  exact ⟨hn, Nat.le_refl k, hbuild⟩

theorem phrase (he : e.Keeps promise) (p : Phrase) :
    (Reading.phrase p).Gives promise e i (promise e.list.tokens p · i ·) :=
  fun n hn => he p i n hn

end Reading.Gives

/-! ## Remembered phrases -/

section
open Reading
variable {e : Setting} {p : Phrase} {body : Reading p.Result}

theorem replay_within {tokens : Array Token} {known : Option (α × Nat)} {i : Nat} {n : Notes}
    {P : α → Nat → Prop} (hn : n.Keeps promise tokens)
    (hknown : ∀ a j, known = some (a, j) → i ≤ j ∧ P a j) :
    (replay known e i n).Within promise tokens i P := by
  cases known with
  | none => exact hn
  | some found => exact ⟨hn, hknown found.1 found.2 rfl⟩

theorem extend_within {i : Nat} (hbody : body.Gives promise e i (promise e.list.tokens p · i ·)) :
    ∀ (fuel : Nat) (best : Option (p.Result × Nat)) (n : Notes),
      (∀ a j, best = some (a, j) → i ≤ j ∧ promise e.list.tokens p a i j) →
      n.Keeps promise e.list.tokens →
      (extend p body fuel best e i n).Within promise e.list.tokens i (promise e.list.tokens p · i ·)
  | 0, best, n, hbest, hn => replay_within hn hbest
  | fuel + 1, best, n, hbest, hn => by
    have hnext := hbody _ (hn.remember hbest)
    unfold extend
    generalize body e i _ = outcome at hnext ⊢
    cases outcome with
    | found a j n' =>
      obtain ⟨hn', hij, ha⟩ := hnext
      dsimp only
      split
      · exact replay_within hn' hbest
      · refine extend_within hbody fuel _ n' ?_ hn'
        rintro a' j' hfound
        obtain ⟨rfl, rfl⟩ := Prod.mk.inj (Option.some.inj hfound)
        exact ⟨hij, ha⟩
    | absent n' => exact replay_within hnext hbest
    | fault x n' => trivial

/-- **Remembering results keeps promises.** A phrase is read as promised in any mode if it is when it
    is read anew. -/
theorem inMode_gives {i : Nat} (hbody : body.Gives promise e i (promise e.list.tokens p · i ·)) :
    (inMode p body).Gives promise e i (promise e.list.tokens p · i ·) := by
  have hpeek : peek.Gives promise e i fun _ j => j = i := .peek fun _ _ => rfl
  unfold inMode
  split
  · exact hbody
  · refine hpeek.bind ?_
    rintro _ j - rfl n hn
    dsimp only
    split
    · exact replay_within hn fun a k h => hn j p a k (by rw [‹Notes.known n j p = _›, h])
    · have hfirst := hbody n hn
      generalize body e j n = outcome at hfirst ⊢
      cases outcome with
      | found a k n' =>
        refine ⟨hfirst.1.remember ?_, hfirst.2⟩
        rintro a' k' hfound
        obtain ⟨rfl, rfl⟩ := Prod.mk.inj (Option.some.inj hfound)
        exact hfirst.2
      | absent n' => exact hfirst.remember nofun
      | fault x n' => trivial
  · refine hpeek.bind ?_
    rintro _ j - rfl n hn
    dsimp only
    split
    · exact replay_within hn fun a k h => hn j p a k (by rw [‹Notes.known n j p = _›, h])
    · exact extend_within hbody _ none n nofun hn

end

/-! ## Readers that go forward -/

/-- A reader that goes forward, and keeps promises as long as phrases do. -/
class Forward (promise : Phrase.Promise) (p : Reading α) : Prop where
  gives : ∀ {e : Setting}, e.Keeps promise → ∀ i, p.Gives promise e i fun _ _ => True

theorem Reading.Gives.past {e : Setting} {i : Nat} {p : Reading α} [hp : Forward promise p]
    {f : α → Reading β} {Q : β → Nat → Prop} (he : e.Keeps promise)
    (hf : ∀ a j, i ≤ j → (f a).Gives promise e j Q) : (p >>= f).Gives promise e i Q :=
  (hp.gives he i).bind fun a j hij _ => hf a j hij

namespace Forward

open Reading

variable {p q : Reading α} {f : α → Reading β}

instance (a : α) : Forward promise (pure a : Reading α) := ⟨fun _ _ => .pure trivial⟩

instance [hp : Forward promise p] [hf : ∀ a, Forward promise (f a)] : Forward promise (p >>= f) :=
  ⟨fun he i => (hp.gives he i).bind fun a j _ _ => (hf a).gives he j⟩

instance : Forward promise (absent : Reading α) := ⟨fun _ _ => .absent⟩

instance (line : Nat) : Forward promise (refuseAt line : Reading α) := ⟨fun _ _ => .refuseAt line⟩

instance : Forward promise (refuseHere : Reading α) := ⟨fun _ _ => .refuseHere⟩

instance [hp : Forward promise p] [hq : Forward promise q] : Forward promise (p <|> q) :=
  ⟨fun he i => (hp.gives he i).orElse (hq.gives he i)⟩

instance {q : Reading β} [hp : Forward promise p] [hf : ∀ a, Forward promise (f a)]
    [hq : Forward promise q] : Forward promise (commit p f q) :=
  ⟨fun he i => (hp.gives he i).commit (fun a j _ _ => (hf a).gives he j) (hq.gives he i)⟩

instance [hp : Forward promise p] : Forward promise (option p) :=
  ⟨fun he i => .option (hp.gives he i) trivial⟩

instance [hp : Forward promise p] : Forward promise (ahead p) := ⟨fun he i => .ahead (hp.gives he i)⟩

instance [hp : Forward promise p] : Forward promise (notAhead p) :=
  ⟨fun he i => .notAhead (hp.gives he i) trivial⟩

instance {p : Reading Unit} [hp : Forward promise p] : Forward promise (trap p : Reading α) :=
  ⟨fun he i => .trap (hp.gives he i)⟩

instance [hp : Forward promise p] : Forward promise (withoutTraps p) :=
  ⟨fun he i => .withoutTraps (hp.gives he i)⟩

instance [hp : Forward promise p] : Forward promise (many p) :=
  ⟨fun he _ => .many (P := fun _ _ _ => True) (fun _ => trivial)
    fun j _ => (hp.gives he j).mono fun _ _ _ _ _ _ _ _ => trivial⟩

instance [Forward promise p] : Forward promise (many1 p) := by
  unfold many1
  infer_instance

instance {separator : Reading β} [Forward promise separator] [Forward promise p] :
    Forward promise (separated separator p) := by
  unfold separated
  infer_instance

instance : Forward promise peek := ⟨fun _ _ => .peek fun _ _ => trivial⟩

instance (test : Token → Bool) : Forward promise (tokenIf test) :=
  ⟨fun _ _ => .tokenIf fun _ _ _ => trivial⟩

instance {p : Reading (Span → α)} [hp : Forward promise p] : Forward promise (spanned p) :=
  ⟨fun he i => .spanned fun _ _ => hp.gives he i⟩

theorem phrase (p : Phrase) : Forward promise (Reading.phrase p) :=
  ⟨fun he _ => (Gives.phrase he p).mono fun _ _ _ _ => trivial⟩

instance (c : Prop) [Decidable c] [hp : Forward promise p] [hq : Forward promise q] :
    Forward promise (if c then p else q) := by
  split
  · exact hp
  · exact hq

end Forward
end RecordLens.Code
