import RecordLens.Code.Parse
import RecordLens.Proofs.GrammarForward
import RecordLens.Proofs.Outcome
/-!
Where statements stand among the tokens. A definition that was read begins with a word, and a line
ends between that word and the first definition behind it, be it inside of its body or behind it; its
place ends with the last token that was read for it. A simple statement ends on a line of its own
group, and what follows that line end are the definitions behind it.

* `Spread`: the places of definitions among the tokens, in order.
* `Laid`: the same of statements, with the line ends behind simple statements.
* `Phrase.places`: what is promised of phrases; `bodyOf_gives`: it is kept by every rule.
* `laid_of_parse`: the statements of a text.
-/
namespace RecordLens.Code

open Reading

/-! ## Places of definitions -/

mutual

/-- The places of the definitions in a statement, where only the bodies of classes are looked into. -/
def definitionSpansIn : Stmt → List Span
  | .classDef span _ _ _ body => span :: definitionSpans body
  | .functionDef span _ _ _ _ _ => [span]
  | _ => []

/-- The places of all definitions in statements. -/
def definitionSpans : List Stmt → List Span
  | [] => []
  | s :: ss => definitionSpansIn s ++ definitionSpans ss

end

theorem definitionSpans_append (ss rest : List Stmt) :
    definitionSpans (ss ++ rest) = definitionSpans ss ++ definitionSpans rest := by
  induction ss with
  | nil => rfl
  | cons s ss ih => rw [List.cons_append, definitionSpans, definitionSpans, ih, List.append_assoc]

/-- Whether a statement has no statements inside it. -/
def Stmt.isSimple : Stmt → Bool
  | .classDef _ _ _ _ _ | .functionDef _ _ _ _ _ _ | .compound _ _ => false
  | _ => true

theorem definitionSpansIn_of_isSimple {s : Stmt} (h : s.isSimple = true) : definitionSpansIn s = [] := by
  cases s <;> first | rfl | exact absurd h Bool.false_ne_true

theorem definitionSpans_cons_of_isSimple {s : Stmt} (h : s.isSimple = true) (ss : List Stmt) :
    definitionSpans (s :: ss) = definitionSpans ss := by
  rw [definitionSpans, definitionSpansIn_of_isSimple h, List.nil_append]

theorem definitionSpans_eq_nil {ss : List Stmt} (h : ∀ s ∈ ss, s.isSimple = true) :
    definitionSpans ss = [] := by
  induction ss with
  | nil => rfl
  | cons s ss ih =>
    rw [definitionSpans_cons_of_isSimple (h s List.mem_cons_self)]
    exact ih fun t ht => h t (List.mem_cons_of_mem s ht)

section
variable (tokens : Array Token)

/-- Whether a token ends a line. -/
def EndsLine (m : Nat) : Prop := ∃ t, tokens[m]? = some t ∧ t.kind = .newline

/-- Places of definitions among the tokens from `lo` to `hi`, one after the other: a line ends between
    the beginnings of any two. -/
inductive Spread : Nat → List Span → Nat → Prop
  | nil {lo hi : Nat} (h : lo ≤ hi) : Spread lo [] hi
  | cons {lo a m b hi : Nat} {first : Token} {rest : List Span} (hlo : lo ≤ a)
      (hfirst : tokens[a]? = some first) (htext : first.text ≠ "") (ham : a < m)
      (hend : EndsLine tokens m) (hmb : m < b) (hsize : b ≤ tokens.size) (hhi : b ≤ hi)
      (hrest : Spread (m + 1) rest hi) :
      Spread lo (first.span.to (lastSpan tokens b) :: rest) hi

/-- A simple statement ends before a line end, and the definitions behind the statement stand behind
    that. -/
def Follows (hi : Nat) : List Stmt → Prop
  | [] => True
  | s :: ss =>
    (s.isSimple = true → ∃ first b m, s.span = Span.to first (lastSpan tokens b) ∧ b ≤ m ∧ m < hi ∧
      EndsLine tokens m ∧ Spread tokens (m + 1) (definitionSpans ss) hi) ∧ Follows hi ss

/-- Statements that stand among the tokens from `lo` to `hi`. -/
structure Laid (lo : Nat) (ss : List Stmt) (hi : Nat) : Prop where
  spread : Spread tokens lo (definitionSpans ss) hi
  follows : Follows tokens hi ss

end

variable {tokens : Array Token}

theorem lt_size_of_token {i : Nat} {P : Token → Prop} (h : ∃ t, tokens[i]? = some t ∧ P t) :
    i < tokens.size := by
  obtain ⟨t, ht, -⟩ := h
  exact (Array.getElem?_eq_some_iff.1 ht).1

namespace Spread

variable {lo mid hi : Nat} {xs ys : List Span}

theorem le (h : Spread tokens lo xs hi) : lo ≤ hi := by
  cases h with
  | nil h => exact h
  | cons hlo _ _ ham _ hmb _ hhi _ => omega

theorem from_le (h : Spread tokens mid xs hi) (hlo : lo ≤ mid) : Spread tokens lo xs hi := by
  cases h with
  | nil h => exact .nil (Nat.le_trans hlo h)
  | cons hmid hfirst htext ham hend hmb hsize hhi hrest =>
    exact .cons (Nat.le_trans hlo hmid) hfirst htext ham hend hmb hsize hhi hrest

theorem to_le (h : Spread tokens lo xs mid) (hhi : mid ≤ hi) : Spread tokens lo xs hi := by
  induction h with
  | nil h => exact .nil (Nat.le_trans h hhi)
  | cons hlo hfirst htext ham hend hmb hsize hb _ ih =>
    exact .cons hlo hfirst htext ham hend hmb hsize (Nat.le_trans hb hhi) (ih hhi)

theorem append (hxs : Spread tokens lo xs mid) (hys : Spread tokens mid ys hi) :
    Spread tokens lo (xs ++ ys) hi := by
  induction hxs with
  | nil h => exact hys.from_le h
  | cons hlo hfirst htext ham hend hmb hsize hb _ ih =>
    exact .cons hlo hfirst htext ham hend hmb hsize (Nat.le_trans hb hys.le) (ih hys)

end Spread

theorem Follows.append {mid hi : Nat} {ss rest : List Stmt} (hss : Follows tokens mid ss)
    (hrest : Laid tokens mid rest hi) : Follows tokens hi (ss ++ rest) := by
  induction ss with
  | nil => exact hrest.follows
  | cons s ss ih =>
    refine ⟨fun hsimple => ?_, ih hss.2⟩
    obtain ⟨first, b, m, hspan, hbm, hm, hend, hspread⟩ := hss.1 hsimple
    refine ⟨first, b, m, hspan, hbm, Nat.lt_of_lt_of_le hm hrest.spread.le, hend, ?_⟩
    show Spread tokens (m + 1) (definitionSpans (ss ++ rest)) hi
    rw [definitionSpans_append]
    exact hspread.append hrest.spread

theorem Laid.nil {lo hi : Nat} (h : lo ≤ hi) : Laid tokens lo [] hi := ⟨.nil h, trivial⟩

theorem Laid.append {lo mid hi : Nat} {ss rest : List Stmt} (hss : Laid tokens lo ss mid)
    (hrest : Laid tokens mid rest hi) : Laid tokens lo (ss ++ rest) hi :=
  ⟨by rw [definitionSpans_append]; exact hss.spread.append hrest.spread, hss.follows.append hrest⟩

/-! ## What is promised -/

/-- A simple statement that ends with the last token that was read. -/
def SimpleTo (tokens : Array Token) (s : Stmt) (stop : Nat) : Prop :=
  s.isSimple = true ∧ ∃ first, s.span = Span.to first (lastSpan tokens stop)

/-- A statement with statements inside it. -/
structure Compound (tokens : Array Token) (lo : Nat) (s : Stmt) (hi : Nat) : Prop where
  notSimple : s.isSimple = false
  spread : Spread tokens lo (definitionSpansIn s) hi

/-- What is promised of phrases: a simple statement is one, and in a block a line ends before the first
    definition. -/
def Phrase.places (tokens : Array Token) : (p : Phrase) → p.Result → Nat → Nat → Prop
  | .simpleStatement, s, _, stop => SimpleTo tokens s stop
  | .block, body, start, stop => ∃ m, start ≤ m ∧ m < stop ∧ stop ≤ tokens.size ∧
      EndsLine tokens m ∧ Spread tokens (m + 1) (definitionSpans body) stop
  | _, _, _, _ => True

namespace Grammar

variable {e : Setting} {i : Nat}

/-! ## Simple statements -/

section
variable (he : e.Keeps Phrase.places)
include he

theorem plain_gives {p : Reading Unit} [Forward Phrase.places p] :
    (plain p).Gives Phrase.places e i (SimpleTo e.list.tokens) :=
  .spanned fun _ _ => .past he fun _ _ _ => .pure ⟨rfl, _, rfl⟩

theorem assignment_gives : assignment.Gives Phrase.places e i (SimpleTo e.list.tokens) := by
  unfold assignment
  refine .orElse (.spanned fun _ _ => ?_) (.orElse (.spanned fun _ _ => ?_)
    (.orElse (.spanned fun _ _ => ?_) ?_))
  · exact .past he fun _ _ _ => .past he fun _ _ _ => .pure ⟨rfl, _, rfl⟩
  · exact .past he fun _ _ _ => .past he fun _ _ _ => .pure ⟨rfl, _, rfl⟩
  · exact .past he fun _ _ _ => .past he fun _ _ _ => .past he fun _ _ _ => .pure ⟨rfl, _, rfl⟩
  · -- the place of an augmented assignment begins where its target does
    refine .commit (Forward.gives he i) (fun first j _ _ => ?_) (.trap (Forward.gives he i))
    exact .past he fun _ k _ n hn => ⟨hn, Nat.le_refl k, rfl, first.span, rfl⟩

theorem importModules_gives :
    importModules.Gives Phrase.places e i (SimpleTo e.list.tokens) :=
  .spanned fun _ _ => .past he fun _ _ _ => .past he fun _ _ _ => .pure ⟨rfl, _, rfl⟩

theorem importFrom_gives : importFrom.Gives Phrase.places e i (SimpleTo e.list.tokens) := by
  unfold importFrom
  refine .orElse (.spanned fun _ _ => ?_) (.spanned fun _ _ => ?_)
  · exact .past he fun _ _ _ => .past he fun _ _ _ => .past he fun _ _ _ => .past he fun _ _ _ =>
      .past he fun _ _ _ => .pure ⟨rfl, _, rfl⟩
  · exact .past he fun _ _ _ => .past he fun _ _ _ => .past he fun _ _ _ => .past he fun _ _ _ =>
      .pure ⟨rfl, _, rfl⟩

theorem simpleStatementBody_gives :
    simpleStatementBody.Gives Phrase.places e i (SimpleTo e.list.tokens) := by
  have hplain : ∀ {p : Reading Unit} [Forward Phrase.places p] (j : Nat),
      (plain p).Gives Phrase.places e j (SimpleTo e.list.tokens) := fun _ => plain_gives he
  unfold simpleStatementBody
  refine .orElse (assignment_gives he) (.orElse (.spanned fun _ _ => ?_) (.orElse ?_ (.orElse ?_
    (.orElse ?_ (.orElse (hplain i) (.orElse ?_ (.orElse ?_ (.orElse ?_ (.orElse (hplain i)
    (.orElse (hplain i) (.orElse ?_ ?_)))))))))))
  · exact .past he fun _ _ _ => .pure ⟨rfl, _, rfl⟩
  · exact .past he fun _ j _ => hplain j
  · exact .past he fun _ _ _ => .orElse (importModules_gives he) (importFrom_gives he)
  · exact .past he fun _ j _ => .orElse (hplain j) (hplain j)
  · exact .past he fun _ j _ => .orElse (hplain j) (.trap (Forward.gives he j))
  · exact .past he fun _ _ _ => .spanned fun _ _ => .past he fun _ _ _ => .pure ⟨rfl, _, rfl⟩
  · exact .past he fun _ j _ => hplain j
  · exact .past he fun _ j _ => hplain j
  · exact .past he fun _ j _ => hplain j

end

/-! ## Tokens -/

section
variable {promise : Phrase.Promise}

theorem kind_gives (k : TokenKind) :
    (kind k).Gives promise e i fun _ j => j = i + 1 ∧ ∃ t, e.list.tokens[i]? = some t ∧ t.kind = k := by
  unfold kind kindToken
  refine .bind (.tokenIf (P := fun t j => j = i + 1 ∧ e.list.tokens[i]? = some t ∧ t.kind = k)
    fun t ht hk => ⟨rfl, ht, of_decide_eq_true hk⟩) ?_
  exact fun t _ _ ⟨hj, ht⟩ => .pure ⟨hj, t, ht⟩

theorem word_gives (text : String) :
    (word text).Gives promise e i fun _ j =>
      j = i + 1 ∧ ∃ t, e.list.tokens[i]? = some t ∧ t.text = text := by
  unfold word wordToken
  refine .bind (.tokenIf (P := fun t j => j = i + 1 ∧ e.list.tokens[i]? = some t ∧ t.text = text)
    fun t ht hk => ⟨rfl, ht, of_decide_eq_true (Bool.and_eq_true_iff.1 hk).2⟩) ?_
  exact fun t _ _ ⟨hj, ht⟩ => .pure ⟨hj, t, ht⟩

theorem mark_gives (text : String) :
    (mark text).Gives promise e i fun _ j =>
      j = i + 1 ∧ ∃ t, e.list.tokens[i]? = some t ∧ t.text = text := by
  unfold mark markToken
  refine .bind (.tokenIf (P := fun t j => j = i + 1 ∧ e.list.tokens[i]? = some t ∧ t.text = text)
    fun t ht hk => ⟨rfl, ht, of_decide_eq_true (Bool.and_eq_true_iff.1 hk).2⟩) ?_
  exact fun t _ _ ⟨hj, ht⟩ => .pure ⟨hj, t, ht⟩

end

/-! ## Statements that only hold others -/

section
variable {promise : Phrase.Promise} (he : e.Keeps promise)
include he

theorem branch_builds (keyword : String) :
    (branch keyword).Gives promise e i fun s _ => ∃ span body, s = .compound span body := by
  unfold branch
  refine .orElse (.trap (Forward.gives he i)) (.orElse (.spanned fun _ _ => ?_)
    (.spanned fun _ _ => ?_))
  · exact .past he fun _ _ _ => .past he fun _ _ _ => .past he fun _ _ _ => .past he fun _ _ _ =>
      .pure ⟨_, _, rfl⟩
  · exact .past he fun _ _ _ => .past he fun _ _ _ => .past he fun _ _ _ => .past he fun _ _ _ =>
      .pure ⟨_, _, rfl⟩

theorem whileStatement_builds :
    whileStatement.Gives promise e i fun s _ => ∃ span body, s = .compound span body := by
  unfold whileStatement
  refine .orElse (.trap (Forward.gives he i)) (.spanned fun _ _ => ?_)
  exact .past he fun _ _ _ => .past he fun _ _ _ => .past he fun _ _ _ => .past he fun _ _ _ =>
    .pure ⟨_, _, rfl⟩

theorem forStatement_builds :
    forStatement.Gives promise e i fun s _ => ∃ span body, s = .compound span body := by
  have htail : ∀ first j, (forTail first).Gives promise e j fun s _ =>
      ∃ span body, s = .compound span body := fun _ _ =>
    .past he fun _ _ _ => .past he fun _ _ _ => .past he fun _ _ _ => .past he fun _ k _ _ hn =>
      ⟨hn, Nat.le_refl k, _, _, rfl⟩
  unfold forStatement
  refine .orElse (.trap (Forward.gives he i)) (.past he fun first j _ => ?_)
  exact .commit (Forward.gives he j) (fun _ k _ _ => htail _ k)
    (.commit (Forward.gives he j) (fun _ k _ _ => htail _ k) (.trap (Forward.gives he j)))

theorem withStatement_builds :
    withStatement.Gives promise e i fun s _ => ∃ span body, s = .compound span body := by
  have hform : ∀ {head : Reading Unit} [Forward promise head],
      (withForm head).Gives promise e i fun s _ => ∃ span body, s = .compound span body :=
    fun {_} _ => .spanned fun _ _ => .past he fun _ _ _ => .past he fun _ _ _ => .pure ⟨_, _, rfl⟩
  unfold withStatement
  exact .orElse (.trap (Forward.gives he i)) (.orElse hform (.orElse hform (.orElse hform
    (.orElse hform (.trap (Forward.gives he i))))))

theorem tryStatement_builds :
    tryStatement.Gives promise e i fun s _ => ∃ span body, s = .compound span body := by
  have hwith : ∀ {handler : Reading (List Stmt)} [Forward promise handler],
      (tryWith handler).Gives promise e i fun s _ => ∃ span body, s = .compound span body :=
    fun {_} _ => .spanned fun _ _ => .past he fun _ _ _ => .past he fun _ _ _ => .past he fun _ _ _ =>
      .past he fun _ _ _ => .pure ⟨_, _, rfl⟩
  unfold tryStatement
  refine .orElse (.trap (Forward.gives he i)) (.orElse (.spanned fun _ _ => ?_) (.orElse hwith hwith))
  exact .past he fun _ _ _ => .past he fun _ _ _ => .pure ⟨_, _, rfl⟩

theorem matchStatement_builds :
    matchStatement.Gives promise e i fun s _ => ∃ span body, s = .compound span body := by
  unfold matchStatement
  refine .orElse (.spanned fun _ _ => ?_) (.trap (Forward.gives he i))
  exact .past he fun _ _ _ => .past he fun _ _ _ => .past he fun _ _ _ => .past he fun _ _ _ =>
    .past he fun _ _ _ => .past he fun _ _ _ => .pure ⟨_, _, rfl⟩

end

/-! ## Groups of simple statements -/

/-- Simple statements that end before the same line end. -/
def OneLine (tokens : Array Token) (lo : Nat) (ss : List Stmt) (hi : Nat) : Prop :=
  ∃ m, lo ≤ m ∧ hi = m + 1 ∧ EndsLine tokens m ∧ ∀ s ∈ ss, ∃ b ≤ m, SimpleTo tokens s b

theorem OneLine.definitionSpans_eq {lo hi : Nat} {ss : List Stmt} (h : OneLine tokens lo ss hi) :
    definitionSpans ss = [] := by
  obtain ⟨m, -, -, -, hss⟩ := h
  refine definitionSpans_eq_nil fun s hs => ?_
  obtain ⟨b, -, hsimple, -⟩ := hss s hs
  exact hsimple

theorem OneLine.laid {lo hi : Nat} {ss : List Stmt} (h : OneLine tokens lo ss hi) :
    Laid tokens lo ss hi := by
  have hspans := h.definitionSpans_eq
  obtain ⟨m, hlo, rfl, hend, hss⟩ := h
  refine ⟨by rw [hspans]; exact .nil (by omega), ?_⟩
  clear hspans
  induction ss with
  | nil => trivial
  | cons s ss ih =>
    have hrest : ∀ t ∈ ss, ∃ b ≤ m, SimpleTo tokens t b :=
      fun t ht => hss t (List.mem_cons_of_mem s ht)
    refine ⟨fun _ => ?_, ih hrest⟩
    obtain ⟨b, hbm, -, first, hspan⟩ := hss s List.mem_cons_self
    refine ⟨first, b, m, hspan, hbm, Nat.lt_succ_self m, hend, ?_⟩
    rw [OneLine.definitionSpans_eq ⟨m, hlo, rfl, hend, hrest⟩]
    exact .nil (Nat.le_refl _)

section
variable (he : e.Keeps Phrase.places)
include he

theorem simpleStatement_gives :
    simpleStatement.Gives Phrase.places e i (SimpleTo e.list.tokens) :=
  .phrase he .simpleStatement

theorem simpleStatements_gives :
    simpleStatements.Gives Phrase.places e i (OneLine e.list.tokens i) := by
  -- each statement ends before the line end, wherever the marks between them stand
  have hsimple : ∀ j, simpleStatement.Gives Phrase.places e j
      fun s k => ∃ b ≤ k, SimpleTo e.list.tokens s b :=
    fun j => (simpleStatement_gives he).mono fun s k _ hs => ⟨k, Nat.le_refl k, hs⟩
  have hlater : ∀ (s : Stmt) (j k : Nat), j ≤ k → (∃ b ≤ j, SimpleTo e.list.tokens s b) →
      ∃ b ≤ k, SimpleTo e.list.tokens s b :=
    fun s j k hjk ⟨b, hb, hs⟩ => ⟨b, Nat.le_trans hb hjk, hs⟩
  have hend : ∀ {ss : List Stmt} {j : Nat}, i ≤ j → (∀ s ∈ ss, ∃ b ≤ j, SimpleTo e.list.tokens s b) →
      (do newline; return ss : Reading (List Stmt)).Gives Phrase.places e j
        (OneLine e.list.tokens i) := by
    intro ss j hij hss
    exact .bind (kind_gives .newline) fun _ k _ ⟨hk, hnewline⟩ => .pure ⟨j, hij, hk, hnewline, hss⟩
  unfold simpleStatements
  refine .orElse ?_ ?_
  · refine (hsimple i).bind fun s j hij hs => .past he fun _ k hjk => hend (by omega) ?_
    exact List.forall_mem_singleton.2 (hlater s j k hjk hs)
  · refine .bind (.separated_all hlater (fun j _ => Forward.gives he j) fun j _ => hsimple j) ?_
    intro ss j hij hss
    refine .past he fun _ k hjk => hend (by omega) fun s hs => ?_
    exact hlater s j k hjk (hss s hs)

/-! ## Statements with statements inside them -/

theorem block_gives : block.Gives Phrase.places e i (Phrase.places e.list.tokens .block · i ·) :=
  .phrase he .block

omit he in
theorem compound_of_defines_nothing {p : Reading Stmt}
    (h : p.Gives Phrase.places e i fun s _ => ∃ span body, s = .compound span body) :
    p.Gives Phrase.places e i (Compound e.list.tokens i) := by
  refine h.mono fun s _ hij hs => ?_
  obtain ⟨span, body, rfl⟩ := hs
  exact ⟨rfl, .nil hij⟩

/-! ## Definitions -/

omit he in
theorem compound_of_block {first : Token} {k stop : Nat} {body : List Stmt} {s : Stmt}
    (hfirst : e.list.tokens[i]? = some first) (htext : first.text ≠ "") (hik : i < k)
    (hbody : Phrase.places e.list.tokens .block body k stop) (hsimple : s.isSimple = false)
    {inner : List Span} (hinner : inner = definitionSpans body ∨ inner = [])
    (hspans : definitionSpansIn s = first.span.to (lastSpan e.list.tokens stop) :: inner) :
    Compound e.list.tokens i s stop := by
  obtain ⟨m, hkm, hm, hsize, hend, hspread⟩ := hbody
  refine ⟨hsimple, ?_⟩
  rw [hspans]
  refine .cons (Nat.le_refl i) hfirst htext (by omega) hend hm hsize (Nat.le_refl stop) ?_
  rcases hinner with rfl | rfl
  · exact hspread
  · exact .nil hm

theorem functionForm_gives (isAsync : Bool) (decorators : List Expr) {start : Reading Unit}
    (hstart : start.Gives Phrase.places e i fun _ j =>
      j = i ∨ i < j ∧ ∃ t, e.list.tokens[i]? = some t ∧ t.text ≠ "") :
    (functionForm isAsync decorators start).Gives Phrase.places e i (Compound e.list.tokens i) := by
  unfold functionForm
  refine .spanned fun first hfirst => .bind hstart fun _ j hij hj => ?_
  refine .bind (word_gives "def") fun _ k hjk ⟨hk, t, ht, htext⟩ => ?_
  have hword : first.text ≠ "" := by
    rcases hj with rfl | ⟨-, u, hu, hutext⟩
    · obtain rfl := Option.some.inj (hfirst.symm.trans ht)
      rw [htext]
      decide
    · obtain rfl := Option.some.inj (hfirst.symm.trans hu)
      exact hutext
  refine .past he fun _ k₁ h₁ => .past he fun _ k₂ h₂ => .past he fun _ k₃ h₃ =>
    .past he fun _ k₄ h₄ => .past he fun _ k₅ h₅ => .past he fun _ k₆ h₆ => ?_
  refine .bind (block_gives he) fun body stop _ hbody => .pure ?_
  exact compound_of_block hfirst hword (by omega) hbody rfl (.inr rfl) rfl

theorem functionHead_gives (decorators : List Expr) :
    (functionHead decorators).Gives Phrase.places e i (Compound e.list.tokens i) := by
  unfold functionHead
  refine .orElse (.trap (Forward.gives he i)) (.orElse ?_ ?_)
  · exact functionForm_gives he _ _ (.pure (.inl rfl))
  · refine functionForm_gives he _ _ ((mark_gives "async").mono ?_)
    rintro _ j - ⟨hj, t, ht, htext⟩
    exact .inr ⟨by omega, t, ht, by rw [htext]; decide⟩

theorem classTail_gives (decorators : List Expr) :
    (classTail decorators).Gives Phrase.places e i (Compound e.list.tokens i) := by
  have hhead : classHead.Gives Phrase.places e i fun _ j =>
      i < j ∧ ∃ t, e.list.tokens[i]? = some t ∧ t.text ≠ "" := by
    unfold classHead
    refine .bind (word_gives "class") fun _ j _ ⟨hj, t, ht, htext⟩ => ?_
    refine .past he fun _ k hjk => .past he fun _ l hkl => .pure ⟨by omega, t, ht, ?_⟩
    rw [htext]
    decide
  unfold classTail
  refine .orElse (.trap (Forward.gives he i)) (.spanned fun first hfirst => ?_)
  refine .bind hhead fun ⟨name, bases⟩ j _ ⟨hij, t, ht, htext⟩ => ?_
  refine .past he fun _ k hjk => .bind (block_gives he) fun body stop _ hbody => .pure ?_
  obtain rfl := Option.some.inj (hfirst.symm.trans ht)
  exact compound_of_block hfirst htext (by omega) hbody rfl (.inl rfl) rfl

theorem decorated_gives {tail : List Expr → Reading Stmt}
    (htail : ∀ ds j, (tail ds).Gives Phrase.places e j (Compound e.list.tokens j)) :
    ((do tail (← decorators)) <|> tail []).Gives Phrase.places e i (Compound e.list.tokens i) := by
  refine .orElse (.past he fun ds j hij => (htail ds j).mono ?_) (htail [] i)
  exact fun s stop _ hs => ⟨hs.notSimple, hs.spread.from_le hij⟩

/-! ## All statements -/

theorem compoundStatement_gives :
    compoundStatement.Gives Phrase.places e i (Compound e.list.tokens i) := by
  -- each alternative looks ahead and then reads from the same token or a later one
  have hbehind : ∀ {p : Reading Stmt} {look : Reading Unit} [Forward Phrase.places look],
      (∀ j, p.Gives Phrase.places e j (Compound e.list.tokens j)) →
      (do look; p : Reading Stmt).Gives Phrase.places e i (Compound e.list.tokens i) :=
    fun {_ _} _ hp => .past he fun _ j hij => (hp j).mono fun s stop _ hs =>
      ⟨hs.notSimple, hs.spread.from_le hij⟩
  have hholds : ∀ {p : Reading Stmt} {look : Reading Unit} [Forward Phrase.places look],
      (∀ j, p.Gives Phrase.places e j fun s _ => ∃ span body, s = .compound span body) →
      (do look; p : Reading Stmt).Gives Phrase.places e i (Compound e.list.tokens i) :=
    fun hp => hbehind fun j => compound_of_defines_nothing (hp j)
  unfold compoundStatement
  refine .orElse (hbehind fun j => ?_) (.orElse (hholds fun j => branch_builds he "if")
    (.orElse (hbehind fun j => ?_) (.orElse (hholds fun j => withStatement_builds he)
    (.orElse (hholds fun j => forStatement_builds he) (.orElse (hholds fun j => tryStatement_builds he)
    (.orElse (hholds fun j => whileStatement_builds he)
    (compound_of_defines_nothing (matchStatement_builds he))))))))
  · exact decorated_gives he fun ds j => functionHead_gives he ds
  · exact decorated_gives he fun ds j => classTail_gives he ds

theorem statement_gives : statement.Gives Phrase.places e i (Laid e.list.tokens i) := by
  unfold statement
  refine .orElse (.bind (compoundStatement_gives he) fun s j _ hs => .pure ?_)
    ((simpleStatements_gives he).mono fun ss j _ hss => hss.laid)
  have hspans : definitionSpans [s] = definitionSpansIn s := List.append_nil _
  exact ⟨by rw [hspans]; exact hs.spread,
    fun hsimple => absurd (hs.notSimple.symm.trans hsimple) Bool.false_ne_true, trivial⟩

theorem statements_gives : statements.Gives Phrase.places e i (Laid e.list.tokens i) := by
  unfold statements many1
  refine .bind (P := fun sss j => Laid e.list.tokens i sss.flatten j) ?_ fun _ _ _ h => .pure h
  refine .bind (statement_gives he) fun ss j _ hss => ?_
  refine .bind (.many (P := fun k sss l => Laid e.list.tokens k sss.flatten l)
    (fun k => .nil (Nat.le_refl k)) fun k _ => ?_) fun sss k _ hsss => .pure (hss.append hsss)
  exact (statement_gives he).mono fun ss l _ hss sss stop _ hsss => hss.append hsss

theorem blockBody_gives :
    blockBody.Gives Phrase.places e i (Phrase.places e.list.tokens .block · i ·) := by
  unfold blockBody
  refine .orElse ?_ (.orElse ?_ (.trap (Forward.gives he i)))
  · refine .bind (kind_gives .newline) fun _ j _ ⟨hj, hend⟩ => .past he fun _ k hjk => ?_
    refine .bind (statements_gives he) fun ss l _ hss => ?_
    refine .bind (kind_gives .dedent) fun _ stop hstop ⟨hl, hdedent⟩ => .pure ?_
    have hspread := (hss.spread.from_le (show i + 1 ≤ k by omega)).to_le hstop
    exact ⟨i, Nat.le_refl i, hspread.le, hl ▸ lt_size_of_token hdedent, hend, hspread⟩
  · refine (simpleStatements_gives he).mono fun ss stop _ hss => ?_
    have hspans := hss.definitionSpans_eq
    obtain ⟨m, hm, rfl, hend, -⟩ := hss
    refine ⟨m, hm, Nat.lt_succ_self m, lt_size_of_token hend, hend, ?_⟩
    rw [hspans]
    exact .nil (Nat.le_refl _)

theorem file_gives : file.Gives Phrase.places e 0 fun ss stop => Laid e.list.tokens 0 ss stop := by
  unfold file
  refine .bind (P := fun found j => Laid e.list.tokens 0 (found.getD []) j)
    (.option (statements_gives he) (.nil (Nat.le_refl 0))) fun found j _ hfound => ?_
  refine .bind (kind_gives .endMarker) fun _ k hjk _ => .pure ?_
  have hall := hfound.append (.nil hjk)
  rwa [List.append_nil] at hall

end
end Grammar

/-! ## Whole texts -/

/-- **Every rule of the grammar keeps what is promised of its phrase.** -/
theorem bodyOf_gives {e : Setting} (he : e.Keeps Phrase.places) (i : Nat) (p : Phrase) :
    (bodyOf p).Gives Phrase.places e i (Phrase.places e.list.tokens p · i ·) := by
  cases p
  case simpleStatement => exact Grammar.simpleStatementBody_gives he
  case block => exact Grammar.blockBody_gives he
  case elifBranch => exact (Grammar.branch_builds he "elif").mono fun _ _ _ _ => trivial
  all_goals
    unfold bodyOf
    exact Forward.gives he i

section
variable {promise : Phrase.Promise}
  (hbody : ∀ {e : Setting}, e.Keeps promise → ∀ (i : Nat) (p : Phrase),
    (bodyOf p).Gives promise e i (promise e.list.tokens p · i ·))
include hbody

/-- Phrases are read as promised, however deep, if every rule of the grammar keeps the promise. -/
theorem readPhrase_keeps (list : TokenList) (readField : ReadField) (fuel : Nat) :
    Setting.Keeps promise ⟨list, readField, readPhrase list readField fuel⟩ := by
  induction fuel with
  | zero => exact fun _ _ _ _ => trivial
  | succ fuel ih => exact fun p i n hn => inMode_gives (hbody ih i p) n hn

end

/-- What a list of tokens is read as, if readers give it however deep phrases are read. -/
theorem readTokens_gives {promise : Phrase.Promise} {list : TokenList} {readField : ReadField}
    {α : Type} {p : Reading α} {P : α → Nat → Prop} {a : α}
    (hp : ∀ fuel, p.Gives promise ⟨list, readField, readPhrase list readField fuel⟩ 0 P)
    (h : readTokens list readField p = .ok a) : ∃ stop, P a stop := by
  have hempty : Notes.Keeps promise list.tokens
      ⟨0, false, Array.replicate list.tokens.size []⟩ := by
    intro place q b stop hknown
    rw [Notes.known, Array.getD_eq_getD_getElem?, Array.getElem?_replicate] at hknown
    split at hknown <;> exact absurd hknown.symm (Option.some_ne_none _)
  unfold readTokens at h
  cases hrun : runReading list readField p 0 false with
  | found b stop n =>
    rw [hrun] at h
    obtain rfl := Except.ok.inj h
    have hfound := hp (phrasesPerToken * (list.tokens.size + 1)) _ hempty
    unfold runReading at hrun
    rw [hrun] at hfound
    exact ⟨stop, hfound.2.2⟩
  | fault x n =>
    rw [hrun] at h
    exact absurd h error_ne_ok
  | absent n =>
    rw [hrun] at h
    dsimp only at h
    split at h
    · exact absurd h error_ne_ok
    all_goals split at h <;> exact absurd h error_ne_ok

theorem parse_reads {promise : Phrase.Promise} {text : String} {tree : List Stmt}
    {P : List Stmt → Nat → Prop}
    (hfile : ∀ {list : TokenList} (readField : ReadField) (fuel : Nat),
      list = tokenize 1 (closeLastLine text.toList) →
      Grammar.file.Gives promise ⟨list, readField, readPhrase list readField fuel⟩ 0 P)
    (h : Module.parse text = .ok tree) : ∃ stop, P tree stop := by
  unfold Module.parse parseWith at h
  dsimp only at h
  split at h
  · exact absurd h nofun
  · split at h
    · rename_i a hread
      obtain rfl := Except.ok.inj h
      exact readTokens_gives (fun fuel => hfile _ fuel rfl) hread
    · exact absurd h nofun

/-- What the statements of a text are, if every rule of the grammar keeps a promise. -/
theorem parse_gives {promise : Phrase.Promise}
    (hbody : ∀ {e : Setting}, e.Keeps promise → ∀ (i : Nat) (p : Phrase),
      (bodyOf p).Gives promise e i (promise e.list.tokens p · i ·))
    {text : String} {tree : List Stmt} {P : List Stmt → Nat → Prop}
    (hfile : ∀ {e : Setting}, e.list = tokenize 1 (closeLastLine text.toList) → e.Keeps promise →
      Grammar.file.Gives promise e 0 P)
    (h : Module.parse text = .ok tree) : ∃ stop, P tree stop :=
  parse_reads (fun readField fuel hlist => hfile hlist (readPhrase_keeps hbody _ readField fuel)) h

/-- **The statements of a text stand among its tokens.** -/
theorem laid_of_parse {text : String} {tree : List Stmt} (h : Module.parse text = .ok tree) :
    ∃ stop, Laid (tokenize 1 (closeLastLine text.toList)).tokens 0 tree stop := by
  refine parse_gives bodyOf_gives (fun {e} hlist he => ?_) h
  rw [← hlist]
  exact Grammar.file_gives he

end RecordLens.Code
