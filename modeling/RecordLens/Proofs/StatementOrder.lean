import RecordLens.Proofs.AssignmentPlaces
/-!
The order of statements. The statements of a text are read one after the other: each begins with a
token with text behind the one before, and behind a simple statement stands the end of a line or a
semicolon. So a token that stands between two statements belongs to neither.

* `InOrder`: statements among the tokens, one after the other.
* `inOrder_of_parse`: the statements of a text.
-/
namespace RecordLens.Code

open Reading

section
variable (tokens : Array Token)

/-- A token that parts simple statements: the end of a line, or a semicolon. -/
def PartsAt (m : Nat) : Prop := EndsLine tokens m ∨ ∃ t, tokens[m]? = some t ∧ t.text = ";"

/-- A statement with statements inside it, which takes tokens from `lo` to `hi`, the first of them for
    its decorators. -/
structure CompoundIn (lo : Nat) (s : Stmt) (hi : Nat) : Prop where
  notSimple : s.isSimple = false
  span_eq : ∃ a first, lo ≤ a ∧ a < hi ∧ tokens[a]? = some first ∧ first.kind.isEdge = false ∧
    s.span = first.span.to (lastSpan tokens hi)

/-- A statement with statements inside it that takes the tokens from `i` to `j`. -/
structure CompoundAt (i : Nat) (s : Stmt) (j : Nat) : Prop where
  notSimple : s.isSimple = false
  lt : i < j
  span_eq : ∃ first, tokens[i]? = some first ∧ first.kind.isEdge = false ∧
    s.span = first.span.to (lastSpan tokens j)

/-- The token `i`, or one that stands behind a line end at `i` or later. -/
def OpensAt (i a : Nat) : Prop := a = i ∨ ∃ m, i ≤ m ∧ a = m + 1 ∧ EndsLine tokens m

/-- Statements that take the tokens from `lo` to `hi`, one after the other. -/
inductive InOrder : Nat → List Stmt → Nat → Prop
  | nil {lo hi : Nat} (h : lo ≤ hi) : InOrder lo [] hi
  | simple {lo a b hi : Nat} {s : Stmt} {rest : List Stmt} (hlo : lo ≤ a) (hs : SimpleAt tokens a s b)
      (hend : PartsAt tokens b) (hrest : InOrder (b + 1) rest hi) : InOrder lo (s :: rest) hi
  | compound {lo b hi : Nat} {s : Stmt} {rest : List Stmt} (hs : CompoundIn tokens lo s b)
      (hrest : InOrder b rest hi) : InOrder lo (s :: rest) hi

end

variable {tokens : Array Token}

theorem CompoundIn.from_le {lo mid hi : Nat} {s : Stmt} (h : CompoundIn tokens mid s hi)
    (hlo : lo ≤ mid) : CompoundIn tokens lo s hi := by
  obtain ⟨hsimple, a, first, ha, htoken⟩ := h
  exact ⟨hsimple, a, first, Nat.le_trans hlo ha, htoken⟩

theorem OpensAt.le {i a : Nat} (h : OpensAt tokens i a) : i ≤ a := by
  rcases h with rfl | ⟨m, hm, rfl, -⟩
  · exact Nat.le_refl a
  · exact Nat.le_succ_of_le hm

theorem OpensAt.trans {i a b : Nat} (ha : OpensAt tokens i a) (hb : OpensAt tokens a b) :
    OpensAt tokens i b := by
  rcases hb with rfl | ⟨m, hm, hend⟩
  · exact ha
  · exact .inr ⟨m, Nat.le_trans ha.le hm, hend⟩

theorem CompoundAt.compoundIn {lo a hi : Nat} {s : Stmt} (h : CompoundAt tokens a s hi)
    (hlo : lo ≤ a) : CompoundIn tokens lo s hi := by
  obtain ⟨hsimple, hlt, first, hfirst⟩ := h
  exact ⟨hsimple, a, first, hlo, hlt, hfirst⟩

namespace InOrder

variable {lo mid hi : Nat} {ss rest : List Stmt}

theorem from_le (h : InOrder tokens mid ss hi) (hlo : lo ≤ mid) : InOrder tokens lo ss hi := by
  cases h with
  | nil h => exact .nil (Nat.le_trans hlo h)
  | simple hmid hs hend hrest => exact .simple (Nat.le_trans hlo hmid) hs hend hrest
  | compound hs hrest => exact .compound (hs.from_le hlo) hrest

theorem append (hss : InOrder tokens lo ss mid) (hrest : InOrder tokens mid rest hi) :
    InOrder tokens lo (ss ++ rest) hi := by
  induction hss with
  | nil h => exact hrest.from_le h
  | simple hlo hs hend _ ih => exact .simple hlo hs hend (ih hrest)
  | compound hs _ ih => exact .compound hs (ih hrest)

theorem first_of_mem (h : InOrder tokens lo ss hi) {s : Stmt} (hs : s ∈ ss) :
    ∃ a first, lo ≤ a ∧ tokens[a]? = some first ∧ first.kind.isEdge = false ∧
      s.span.line = first.span.line ∧ s.span.column = first.span.column := by
  induction h with
  | nil => exact absurd hs List.not_mem_nil
  | simple hlo hfirst _ _ ih =>
    obtain ⟨-, hlt, first, htoken, hedge, hspan⟩ := hfirst
    rcases List.mem_cons.1 hs with rfl | hs
    · exact ⟨_, first, hlo, htoken, hedge, by rw [hspan]; exact ⟨rfl, rfl⟩⟩
    · obtain ⟨a, found, ha, hfound⟩ := ih hs
      exact ⟨a, found, by omega, hfound⟩
  | compound hfirst _ ih =>
    obtain ⟨-, a, first, ha, hlt, htoken, hedge, hspan⟩ := hfirst
    rcases List.mem_cons.1 hs with rfl | hs
    · exact ⟨a, first, ha, htoken, hedge, by rw [hspan]; exact ⟨rfl, rfl⟩⟩
    · obtain ⟨a', found, ha', hfound⟩ := ih hs
      exact ⟨a', found, by omega, hfound⟩

/-- A simple statement among others: simple ones before it end before it begins, and those behind it stand
    behind what ends it. -/
theorem split_simple {above below : List Stmt} {s : Stmt}
    (h : InOrder tokens lo (above ++ s :: below) hi) (hs : s.isSimple = true) : ∃ a b,
      lo ≤ a ∧ SimpleAt tokens a s b ∧ PartsAt tokens b ∧
      InOrder tokens (b + 1) below hi ∧ ∀ x ∈ above, x.isSimple = true →
        ∃ a' b', SimpleAt tokens a' x b' ∧ b' ≤ a := by
  induction above generalizing lo with
  | nil =>
    cases h with
    | simple hlo hfirst hend hrest => exact ⟨_, _, hlo, hfirst, hend, hrest, nofun⟩
    | compound hfirst _ => exact absurd (hfirst.notSimple.symm.trans hs) Bool.false_ne_true
  | cons x above ih =>
    cases h with
    | simple hlo hfirst _ hrest =>
      obtain ⟨a, b, ha, hat, hend, hbelow, habove⟩ := ih hrest
      have hlt := hfirst.lt
      refine ⟨a, b, by omega, hat, hend, hbelow, fun y hy hsimple => ?_⟩
      rcases List.mem_cons.1 hy with rfl | hy
      · exact ⟨_, _, hfirst, by omega⟩
      · exact habove y hy hsimple
    | compound hfirst hrest =>
      obtain ⟨a, b, ha, hat, hend, hbelow, habove⟩ := ih hrest
      obtain ⟨hnot, a', _, ha', hlt, -⟩ := hfirst
      refine ⟨a, b, by omega, hat, hend, hbelow, fun y hy hsimple => ?_⟩
      rcases List.mem_cons.1 hy with rfl | hy
      · exact absurd (hnot.symm.trans hsimple) Bool.false_ne_true
      · exact habove y hy hsimple

end InOrder

/-! ## Tokens in order -/

/-- Whether a place is another one or above it. -/
def Place.le (p q : Place) : Prop := p.line < q.line ∨ p.line = q.line ∧ p.column ≤ q.column

instance (p q : Place) : Decidable (p.le q) := inferInstanceAs (Decidable (_ ∨ _))

theorem Place.le_trans {p q r : Place} (hpq : p.le q) (hqr : q.le r) : p.le r := by
  unfold Place.le at *
  omega

theorem Place.le_past (p : Place) (cs : List Char) : p.le (p.past cs) := by
  induction cs generalizing p with
  | nil => exact .inr ⟨rfl, Nat.le_refl _⟩
  | cons c cs ih =>
    rw [past]
    split
    · exact Place.le_trans (q := ⟨p.line + 1, 0⟩) (.inl (Nat.lt_succ_self _)) (ih _)
    · exact Place.le_trans (q := ⟨p.line, p.column + c.utf8Size⟩) (.inr ⟨rfl, Nat.le_add_right _ _⟩)
        (ih _)

theorem Cursor.Reads.place_le {c c' : Cursor} {cs : List Char} (h : c.Reads cs c') :
    c.place.le c'.place :=
  h.2 ▸ c.place.le_past cs

/-- Whether a stretch of code ends before another one begins. -/
def Span.Before (x y : Span) : Prop := Place.le ⟨x.endLine, x.endColumn⟩ ⟨y.line, y.column⟩

instance (x y : Span) : Decidable (x.Before y) := inferInstanceAs (Decidable (Place.le _ _))

namespace CutFrom

variable {c : Cursor} {ts : List Token}

theorem place_le (h : CutFrom c ts) {t : Token} (ht : t ∈ ts) (htext : t.text ≠ "") :
    c.place.le ⟨t.span.line, t.span.column⟩ := by
  induction h with
  | nil => exact absurd ht List.not_mem_nil
  | cons hgap hread hu _ ih =>
    rcases List.mem_cons.1 ht with rfl | ht
    · cases hu with
      | lineEnd _ hempty => exact absurd hempty htext
      | edge _ _ hempty => exact absurd hempty htext
      | text _ _ _ hspan =>
        rw [hspan]
        exact hgap.place_le
    · exact Place.le_trans hgap.place_le (Place.le_trans hread.place_le (ih ht))

theorem pairwise_before (h : CutFrom c ts) :
    ts.Pairwise fun t u => t.text ≠ "" → u.text ≠ "" → t.span.Before u.span := by
  induction h with
  | nil => exact .nil
  | cons hgap hread ht hts ih =>
    refine .cons (fun u hu htext hutext => ?_) ih
    cases ht with
    | lineEnd _ hempty => exact absurd hempty htext
    | edge _ _ hempty => exact absurd hempty htext
    | text _ _ _ hspan =>
      rw [hspan]
      exact hts.place_le hu hutext

theorem before (h : CutFrom c tokens.toList) {l a : Nat} {t u : Token} (ht : tokens[l]? = some t)
    (htext : t.text ≠ "") (hla : l < a) (hu : tokens[a]? = some u) (hutext : u.text ≠ "") :
    t.span.Before u.span := by
  rw [← Array.getElem?_toList] at ht hu
  obtain ⟨hl, rfl⟩ := List.getElem?_eq_some_iff.1 ht
  obtain ⟨ha, rfl⟩ := List.getElem?_eq_some_iff.1 hu
  exact List.pairwise_iff_getElem.1 h.pairwise_before l a hl ha hla htext hutext

theorem endLine_le_lastSpan (h : CutFrom c tokens.toList) {a b : Nat} {t : Token}
    (ht : tokens[a]? = some t) (htext : t.text ≠ "") (hab : a < b) (hb : b ≤ tokens.size) :
    t.span.endLine ≤ (lastSpan tokens b).endLine := by
  obtain ⟨l, u, hal, -, hu, hedge, heq⟩ :=
    lastSpan_of_lt ht ((h.text_ne_iff (mem_of_getElem? ht)).1 htext) hab hb
  rw [heq]
  rcases Nat.eq_or_lt_of_le hal with rfl | hlt
  · obtain rfl := Option.some.inj (ht.symm.trans hu)
    exact Nat.le_refl _
  · have hutext := (h.text_ne_iff (mem_of_getElem? hu)).2 hedge
    have hbefore := h.before ht htext hlt hu hutext
    have hlines := (h.line_le (mem_of_getElem? hu) hutext).2
    unfold Span.Before Place.le at hbefore
    dsimp only at hbefore
    omega

end CutFrom

theorem SimpleAt.last {c : Cursor} (hcut : CutFrom c tokens.toList) {a b : Nat} {s : Stmt}
    (h : SimpleAt tokens a s b) (hb : b ≤ tokens.size) : ∃ l last, a ≤ l ∧ l < b ∧
      tokens[l]? = some last ∧ last.text ≠ "" ∧ s.span.endLine = last.span.endLine ∧
      s.span.endColumn = last.span.endColumn := by
  obtain ⟨-, hab, first, hfirst, hedge, hspan⟩ := h
  obtain ⟨l, last, hal, hlb, hlast, hlastEdge, heq⟩ := lastSpan_of_lt hfirst hedge hab hb
  rw [hspan, heq]
  exact ⟨l, last, hal, hlb, hlast, (hcut.text_ne_iff (mem_of_getElem? hlast)).2 hlastEdge, rfl, rfl⟩

/-! ## Rules -/

-- some rules of the grammar have more parts than the default allows for
set_option synthInstance.maxSize 1000

variable {α β : Type} {e : Setting} {i : Nat}

instance {f : α → Reading β} {a : α} [h : Solid (f a)] : Solid (pure a >>= f) :=
  ⟨fun he i => by
    refine (Gives.pure (P := fun x j => x = a ∧ j = i) ⟨rfl, rfl⟩).bind ?_
    rintro _ _ - ⟨rfl, rfl⟩
    exact h.gives he _⟩

section
variable (he : e.Keeps Phrase.stands)
include he

theorem compound_gives {p : Reading (Span → Stmt)} [Solid p] [hp : BuildsStmt false p] :
    (spanned p).Gives Phrase.stands e i (CompoundAt e.list.tokens i) := by
  refine .spanned fun first hfirst => ?_
  refine ((Solid.gives he i).and (hp.gives he i)).mono fun build j _ ⟨hsolid, hbuild⟩ => ?_
  obtain ⟨⟨t, ht, hedge⟩, hij⟩ := hsolid
  obtain rfl := Option.some.inj (hfirst.symm.trans ht)
  exact ⟨(hbuild _).1, hij, first, hfirst, hedge, (hbuild _).2⟩

end

namespace Grammar

instance (keyword : String) : Solid (conditionHead keyword) := by unfold conditionHead; infer_instance
instance : Solid clauseHead := by unfold clauseHead; infer_instance
instance : Solid withBracketed := by unfold withBracketed; infer_instance
instance : Solid withPlain := by unfold withPlain; infer_instance
instance : Solid tryHead := by unfold tryHead; infer_instance
instance : Solid matchHead := by unfold matchHead subject; infer_instance
instance : Solid classHead := by unfold classHead; infer_instance

section
variable (he : e.Keeps Phrase.stands)
include he

theorem branch_begins (keyword : String) :
    (branch keyword).Gives Phrase.stands e i (CompoundAt e.list.tokens i) :=
  .orElse (.trap (Forward.gives he i)) (.orElse (compound_gives he) (compound_gives he))

theorem whileStatement_begins :
    whileStatement.Gives Phrase.stands e i (CompoundAt e.list.tokens i) :=
  .orElse (.trap (Forward.gives he i)) (compound_gives he)

theorem withStatement_begins :
    withStatement.Gives Phrase.stands e i (CompoundAt e.list.tokens i) := by
  unfold withStatement
  exact .orElse (.trap (Forward.gives he i)) (.orElse (compound_gives he)
    (.orElse (compound_gives he) (.orElse (compound_gives he)
    (.orElse (compound_gives he) (.trap (Forward.gives he i))))))

theorem tryStatement_begins :
    tryStatement.Gives Phrase.stands e i (CompoundAt e.list.tokens i) := by
  unfold tryStatement
  exact .orElse (.trap (Forward.gives he i)) (.orElse (compound_gives he)
    (.orElse (compound_gives he) (compound_gives he)))

theorem matchStatement_begins :
    matchStatement.Gives Phrase.stands e i (CompoundAt e.list.tokens i) := by
  unfold matchStatement
  exact .orElse (compound_gives he) (.trap (Forward.gives he i))

theorem functionHead_begins (ds : List Expr) :
    (functionHead ds).Gives Phrase.stands e i (CompoundAt e.list.tokens i) := by
  unfold functionHead functionForm
  exact .orElse (.trap (Forward.gives he i)) (.orElse (compound_gives he) (compound_gives he))

theorem classTail_begins (ds : List Expr) :
    (classTail ds).Gives Phrase.stands e i (CompoundAt e.list.tokens i) := by
  unfold classTail
  exact .orElse (.trap (Forward.gives he i)) (compound_gives he)

theorem forStatement_begins :
    forStatement.Gives Phrase.stands e i (CompoundAt e.list.tokens i) := by
  have hpeek : peek.Gives Phrase.stands e i fun t j => e.list.tokens[i]? = some t ∧ j = i :=
    .peek fun _ ht => ⟨ht, rfl⟩
  have htail {first : Token} (hfirst : e.list.tokens[i]? = some first) {j : Nat}
      (hj : SolidFrom e.list.tokens i j) :
      (forTail first.span).Gives Phrase.stands e j (CompoundAt e.list.tokens i) := by
    obtain ⟨⟨t, ht, hedge⟩, hij⟩ := hj
    obtain rfl := Option.some.inj (hfirst.symm.trans ht)
    exact .past he fun _ _ h₁ => .past he fun _ _ h₂ => .past he fun _ _ h₃ =>
      .past he fun _ k h₄ n hn =>
        ⟨hn, Nat.le_refl k, rfl, by omega, first, hfirst, hedge, rfl⟩
  unfold forStatement
  refine .orElse (.trap (Forward.gives he i)) (hpeek.bind ?_)
  rintro first _ - ⟨hfirst, rfl⟩
  exact .commit (Solid.gives he _) (fun _ _ _ h => htail hfirst h)
    (.commit (Solid.gives he _) (fun _ _ _ h => htail hfirst h) (.trap (Forward.gives he _)))

theorem decorators_begin :
    decorators.Gives Phrase.stands e i fun _ j => OpensAt e.list.tokens i j := by
  have hone (j : Nat) : (do mark "@"; let x ← namedExpression; newline; return x : Reading Expr).Gives
      Phrase.stands e j fun _ k => OpensAt e.list.tokens j k := by
    refine .past he fun _ k hjk => .past he fun _ l hkl => .bind (kind_gives .newline) ?_
    rintro _ _ - ⟨rfl, hend⟩
    exact .pure (.inr ⟨l, by omega, rfl, hend⟩)
  unfold decorators many1
  refine (hone i).bind fun d j _ hj => ?_
  refine .bind (.many (P := fun k _ l => OpensAt e.list.tokens k l) (fun _ => .inl rfl) fun k _ => ?_)
    fun ds k _ hk => .pure (hj.trans hk)
  exact (hone k).mono fun _ _ _ hl _ _ _ hm => hl.trans hm

theorem decorated_begins {tail : List Expr → Reading Stmt}
    (htail : ∀ ds j, (tail ds).Gives Phrase.stands e j (CompoundAt e.list.tokens j)) :
    ((do tail (← decorators)) <|> tail []).Gives Phrase.stands e i fun s j =>
      ∃ a, OpensAt e.list.tokens i a ∧ CompoundAt e.list.tokens a s j := by
  refine .orElse ((decorators_begin he).bind fun ds j _ hj => (htail ds j).mono ?_)
    ((htail [] i).mono ?_)
  · exact fun s k _ hs => ⟨j, hj, hs⟩
  · exact fun s k _ hs => ⟨i, .inl rfl, hs⟩

/-- **A statement with statements inside it begins behind its decorators.** -/
theorem compoundStatement_begins : compoundStatement.Gives Phrase.stands e i fun s j =>
    ∃ a, OpensAt e.list.tokens i a ∧ CompoundAt e.list.tokens a s j := by
  have hbare {p : Reading Stmt} (hp : p.Gives Phrase.stands e i (CompoundAt e.list.tokens i)) :
      p.Gives Phrase.stands e i fun s j =>
        ∃ a, OpensAt e.list.tokens i a ∧ CompoundAt e.list.tokens a s j :=
    hp.mono fun s j _ hs => ⟨i, .inl rfl, hs⟩
  unfold compoundStatement functionDef classDef
  exact .orElse (ahead_gives he (decorated_begins he fun ds _ => functionHead_begins he ds))
    (.orElse (ahead_gives he (hbare (branch_begins he "if")))
    (.orElse (ahead_gives he (decorated_begins he fun ds _ => classTail_begins he ds))
    (.orElse (ahead_gives he (hbare (withStatement_begins he)))
    (.orElse (ahead_gives he (hbare (forStatement_begins he)))
    (.orElse (ahead_gives he (hbare (tryStatement_begins he)))
    (.orElse (ahead_gives he (hbare (whileStatement_begins he)))
    (hbare (matchStatement_begins he))))))))

theorem compoundStatement_orders :
    compoundStatement.Gives Phrase.stands e i (CompoundIn e.list.tokens i) :=
  (compoundStatement_begins he).mono fun _ _ _ ⟨_, ha, hs⟩ => hs.compoundIn ha.le

/-! ## All statements -/

omit he in
theorem newline_parts :
    newline.Gives Phrase.stands e i fun _ j => j = i + 1 ∧ PartsAt e.list.tokens i :=
  (kind_gives .newline).mono fun _ _ _ ⟨hj, hend⟩ => ⟨hj, .inl hend⟩

omit he in
theorem semicolon_parts :
    (mark ";").Gives Phrase.stands e i fun _ j => j = i + 1 ∧ PartsAt e.list.tokens i :=
  (mark_gives ";").mono fun _ _ _ ⟨hj, t, ht, htext⟩ => ⟨hj, .inr ⟨t, ht, htext⟩⟩

theorem simpleStatements_orders :
    simpleStatements.Gives Phrase.stands e i (InOrder e.list.tokens i) := by
  have hsimple (j : Nat) : simpleStatement.Gives Phrase.stands e j (SimpleAt e.list.tokens j) :=
    (Gives.phrase he .simpleStatement).mono fun _ _ _ h => h.1
  unfold simpleStatements
  refine .orElse ((hsimple i).bind fun s j _ hs => ?_) ?_
  · refine .bind (P := fun _ k => k = j) (.notAhead (Forward.gives he j) rfl) ?_
    rintro _ _ - rfl
    refine newline_parts.bind ?_
    rintro _ _ - ⟨rfl, hend⟩
    exact .pure (.simple (Nat.le_refl i) hs hend (.nil (Nat.le_refl _)))
  · -- `as` stand behind the first statement, which ends before `j`
    have hmore (j : Nat) : (many (do mark ";"; simpleStatement)).Gives Phrase.stands e j fun as l =>
        ∀ hi, PartsAt e.list.tokens l → l + 1 ≤ hi →
          PartsAt e.list.tokens j ∧ InOrder e.list.tokens (j + 1) as hi := by
      refine .many (P := fun j as l => ∀ hi, PartsAt e.list.tokens l → l + 1 ≤ hi →
        PartsAt e.list.tokens j ∧ InOrder e.list.tokens (j + 1) as hi)
        (fun _ hi hend hhi => ⟨hend, .nil hhi⟩) fun j _ => semicolon_parts.bind ?_
      rintro _ _ - ⟨rfl, hj⟩
      refine (hsimple (j + 1)).mono fun s k _ hs as l _ has hi hend hhi => ⟨hj, ?_⟩
      obtain ⟨hk, hrest⟩ := has hi hend hhi
      exact .simple (Nat.le_refl _) hs hk hrest
    refine .bind (P := fun ss l => ∀ hi, PartsAt e.list.tokens l → l + 1 ≤ hi →
      InOrder e.list.tokens i ss hi) ?_ fun ss l _ hss => ?_
    · unfold separated
      refine (hsimple i).bind fun s j _ hs => (hmore j).bind fun as l _ has => .pure ?_
      intro hi hend hhi
      obtain ⟨hj, hrest⟩ := has hi hend hhi
      exact .simple (Nat.le_refl i) hs hj hrest
    · refine .bind (P := fun _ k => k = l ∨ k = l + 1 ∧ PartsAt e.list.tokens l)
        (.option (semicolon_parts.mono fun _ _ _ h => .inr h) (.inl rfl)) fun _ k _ hk => ?_
      refine newline_parts.bind ?_
      rintro _ _ - ⟨rfl, hend⟩
      rcases hk with rfl | ⟨rfl, hl⟩
      · exact .pure (hss _ hend (Nat.le_refl _))
      · exact .pure (hss _ hl (Nat.le_succ _))

theorem statements_orders : statements.Gives Phrase.stands e i (InOrder e.list.tokens i) := by
  have hstatement (j : Nat) : statement.Gives Phrase.stands e j (InOrder e.list.tokens j) := by
    unfold statement
    refine .orElse ((compoundStatement_orders he).bind fun s k _ hs => .pure ?_)
      (simpleStatements_orders he)
    exact .compound hs (.nil (Nat.le_refl k))
  unfold statements many1
  refine .bind (P := fun sss j => InOrder e.list.tokens i sss.flatten j) ?_ fun _ _ _ h => .pure h
  refine (hstatement i).bind fun ss j _ hss => ?_
  refine .bind (.many (P := fun k sss l => InOrder e.list.tokens k sss.flatten l)
    (fun k => .nil (Nat.le_refl k)) fun k _ => ?_) fun sss k _ hsss => .pure (hss.append hsss)
  exact (hstatement k).mono fun ss l _ hss sss stop _ hsss => hss.append hsss

theorem file_orders : file.Gives Phrase.stands e 0 (InOrder e.list.tokens 0) := by
  unfold file
  refine .bind (P := fun found j => InOrder e.list.tokens 0 (found.getD []) j)
    (.option (statements_orders he) (.nil (Nat.le_refl 0))) fun found j _ hfound => ?_
  refine .past he fun _ k hjk => .pure ?_
  have hall := hfound.append (.nil hjk)
  rwa [List.append_nil] at hall

end
end Grammar

/-- **The statements of a text stand one after the other.** -/
theorem inOrder_of_parse {text : String} {tree : List Stmt} (h : Module.parse text = .ok tree) :
    ∃ stop, InOrder (tokenize 1 (closeLastLine text.toList)).tokens 0 tree stop := by
  refine parse_gives bodyOf_settles (fun {e} hlist he => ?_) h
  rw [← hlist]
  exact Grammar.file_orders he

end RecordLens.Code
