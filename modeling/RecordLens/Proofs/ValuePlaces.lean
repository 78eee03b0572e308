import RecordLens.Proofs.LineOrder
/-!
Where expressions stand among the tokens. Every expression that is read begins at a token with text,
and its place goes from such a token to the last one before some later token; brackets around it may
stand before the one and behind the other.

* `Stands`: an expression among the tokens from one to another.
* `Phrase.stands`: what is promised of phrases.
* `Solid`: readers that begin with a token with text; `Builds`: readers that build expressions.
* `spanned_gives`: an expression that is built from the tokens a reader takes.
-/
namespace RecordLens.Code

open Reading

/-! ## Places of expressions -/

mutual

/-- The targets and the values of the assignments in a statement. -/
def assignedIn : Stmt → List Expr
  | .assign _ targets value => targets ++ [value]
  | .classDef _ _ _ _ body | .functionDef _ _ _ _ _ body | .compound _ body => assigned body
  | _ => []

/-- The values that statements assign. -/
def assigned : List Stmt → List Expr
  | [] => []
  | s :: ss => assignedIn s ++ assigned ss

end

section
variable (tokens : Array Token)

/-- The token `i` has text, and `j` is behind it. -/
def SolidFrom (i j : Nat) : Prop :=
  (∃ t, tokens[i]? = some t ∧ t.kind.isEdge = false) ∧ i < j

/-- A stretch of code that begins with a token with text and ends with the last one before some token
    behind that and not behind `stop`. -/
def Covers (span : Span) (stop : Nat) : Prop :=
  ∃ a first b, tokens[a]? = some first ∧ first.kind.isEdge = false ∧ a < b ∧ b ≤ stop ∧
    span = first.span.to (lastSpan tokens b)

/-- An expression among the tokens from `start` to `stop`. -/
structure Stands (start : Nat) (x : Expr) (stop : Nat) : Prop where
  solid : SolidFrom tokens start stop
  covers : Covers tokens x.span stop

/-- A stretch of code that goes from a token with text to one. -/
def Anchored (span : Span) : Prop :=
  ∃ (a l : Nat) (first last : Token), tokens[a]? = some first ∧ tokens[l]? = some last ∧ a ≤ l ∧
    first.kind.isEdge = false ∧ last.kind.isEdge = false ∧ span = first.span.to last.span

end

variable {tokens : Array Token}

theorem Covers.to_le {span : Span} {j k : Nat} (h : Covers tokens span j) (hjk : j ≤ k) :
    Covers tokens span k := by
  obtain ⟨a, first, b, hfirst, hedge, hab, hbj, hspan⟩ := h
  exact ⟨a, first, b, hfirst, hedge, hab, Nat.le_trans hbj hjk, hspan⟩

theorem Covers.anchored {span : Span} {stop : Nat} (h : Covers tokens span stop)
    (hstop : stop ≤ tokens.size) : Anchored tokens span := by
  obtain ⟨a, first, b, hfirst, hedge, hab, hb, rfl⟩ := h
  obtain ⟨l, last, hal, -, hlast, hlastEdge, heq⟩ :=
    lastSpan_of_lt hfirst hedge hab (Nat.le_trans hb hstop)
  exact ⟨a, l, first, last, hfirst, hlast, hal, hedge, hlastEdge, by rw [heq]⟩

theorem Stands.to_le {i j k : Nat} {x : Expr} (h : Stands tokens i x j) (hjk : j ≤ k) :
    Stands tokens i x k :=
  ⟨⟨h.solid.1, Nat.lt_of_lt_of_le h.solid.2 hjk⟩, h.covers.to_le hjk⟩

/-- A simple statement that takes the tokens from `i` to `j`. -/
structure SimpleAt (tokens : Array Token) (i : Nat) (s : Stmt) (j : Nat) : Prop where
  isSimple : s.isSimple = true
  lt : i < j
  span_eq : ∃ first, tokens[i]? = some first ∧ first.kind.isEdge = false ∧
    s.span = first.span.to (lastSpan tokens j)

/-- What is promised of phrases: expressions stand among the tokens, simple statements take them, and the
    targets and the values of assignments stand among them. -/
def Phrase.stands (tokens : Array Token) : (p : Phrase) → p.Result → Nat → Nat → Prop
  | .expression, x, i, j | .starExpression, x, i, j | .disjunction, x, i, j
  | .conjunction, x, i, j | .inversion, x, i, j | .bitOr, x, i, j | .bitXor, x, i, j
  | .bitAnd, x, i, j | .shift, x, i, j | .sum, x, i, j | .product, x, i, j | .factor, x, i, j
  | .awaited, x, i, j | .primary, x, i, j | .strings, x, i, j | .target, x, i, j
  | .targetAtom, x, i, j | .targetPrimary, x, i, j | .deleted, x, i, j | .singleTarget, x, i, j
  | .annotationTarget, x, i, j => Stands tokens i x j
  | .simpleStatement, s, i, j =>
    SimpleAt tokens i s j ∧ ∀ x ∈ assignedIn s, Covers tokens x.span j
  | .block, ss, _, _ => ∀ x ∈ assigned ss, Anchored tokens x.span
  | .elifBranch, s, _, _ => ∀ x ∈ assignedIn s, Anchored tokens x.span
  | .arguments, _, _, _ | .assignmentTrap, _, _, _ | .closedPattern, _, _, _
  | .starPattern, _, _, _ | .dottedPattern, _, _, _ | .dottedName, _, _, _ => True

/-! ## Readers that begin with a token with text -/

variable {α β : Type} {e : Setting} {i : Nat}

theorem Reading.Gives.and {promise : Phrase.Promise} {p : Reading α} {P Q : α → Nat → Prop}
    (hP : p.Gives promise e i P) (hQ : p.Gives promise e i Q) :
    p.Gives promise e i fun a j => P a j ∧ Q a j := by
  intro n hn
  have hfirst := hP n hn
  have hsecond := hQ n hn
  generalize p e i n = outcome at hfirst hsecond ⊢
  cases outcome with
  | found a j n' => exact ⟨hfirst.1, hfirst.2.1, hfirst.2.2, hsecond.2.2⟩
  | absent n' => exact hfirst
  | fault x n' => trivial

/-- A reader that begins with a token with text, and takes it. -/
class Solid (p : Reading α) : Prop where
  gives : ∀ {e : Setting}, e.Keeps Phrase.stands → ∀ i,
    p.Gives Phrase.stands e i fun _ j => SolidFrom e.list.tokens i j

namespace Solid

open Grammar

variable {p q : Reading α} {f : α → Reading β}

instance [hp : Solid p] [hf : ∀ a, Forward Phrase.stands (f a)] : Solid (p >>= f) :=
  ⟨fun he i => (hp.gives he i).bind fun a j _ ha =>
    ((hf a).gives he j).mono fun _ _ hjk _ => ⟨ha.1, Nat.lt_of_lt_of_le ha.2 hjk⟩⟩

instance [hp : Solid p] [hq : Solid q] : Solid (p <|> q) :=
  ⟨fun he i => (hp.gives he i).orElse (hq.gives he i)⟩

instance [Solid p] [Forward Phrase.stands p] : Solid (many1 p) := by
  unfold many1
  infer_instance

theorem tokenIf {test : Token → Bool} (h : ∀ t, test t = true → t.kind.isEdge = false) :
    Solid (Reading.tokenIf test) :=
  ⟨fun _ i => .tokenIf fun t ht htest => ⟨⟨t, ht, h t htest⟩, Nat.lt_succ_self i⟩⟩

theorem isEdge_of_kind {kind : TokenKind} (hkind : kind.isEdge = false) {t : Token} {b : Bool}
    (h : (decide (t.kind = kind) && b) = true) : t.kind.isEdge = false := by
  rw [of_decide_eq_true (Bool.and_eq_true_iff.1 h).1]
  exact hkind

instance (text : String) : Solid (markToken text) := tokenIf fun _ => isEdge_of_kind rfl
instance (text : String) : Solid (wordToken text) := tokenIf fun _ => isEdge_of_kind rfl
instance : Solid nameToken := tokenIf fun _ => isEdge_of_kind rfl

instance : Solid (kindToken .string) := tokenIf fun t h => by
  rw [of_decide_eq_true h]
  rfl

instance (text : String) : Solid (mark text) := by unfold mark; infer_instance
instance (text : String) : Solid (word text) := by unfold word; infer_instance
instance : Solid name := by unfold name; infer_instance

theorem phrase (p : Phrase) (h : ∀ {tokens : Array Token} {a : p.Result} {i j : Nat},
    Phrase.stands tokens p a i j → SolidFrom tokens i j) : Solid (Reading.phrase p) :=
  ⟨fun he _ => (Gives.phrase he p).mono fun _ _ _ ha => h ha⟩

instance : Solid starExpression := phrase .starExpression Stands.solid
instance : Solid disjunction := phrase .disjunction Stands.solid
instance : Solid conjunction := phrase .conjunction Stands.solid
instance : Solid inversion := phrase .inversion Stands.solid
instance : Solid bitOr := phrase .bitOr Stands.solid
instance : Solid bitXor := phrase .bitXor Stands.solid
instance : Solid bitAnd := phrase .bitAnd Stands.solid
instance : Solid shift := phrase .shift Stands.solid
instance : Solid sum := phrase .sum Stands.solid
instance : Solid product := phrase .product Stands.solid
instance : Solid awaited := phrase .awaited Stands.solid
instance : Solid primary := phrase .primary Stands.solid
instance : Solid target := phrase .target Stands.solid
instance : Solid targetPrimary := phrase .targetPrimary Stands.solid

end Solid

/-! ## Readers that build expressions -/

/-- A reader of what makes an expression out of the stretch of code it takes up. -/
class Builds (p : Reading (Span → Expr)) : Prop where
  gives : ∀ {e : Setting}, e.Keeps Phrase.stands → ∀ i,
    p.Gives Phrase.stands e i fun build _ => ∀ s, (build s).span = s

namespace Builds

theorem pure {build : Span → Expr} (h : ∀ s, (build s).span = s) :
    Builds (Pure.pure build : Reading (Span → Expr)) :=
  ⟨fun _ _ => .pure h⟩

instance {p : Reading α} {f : α → Reading (Span → Expr)} [hp : Forward Phrase.stands p]
    [hf : ∀ a, Builds (f a)] : Builds (p >>= f) :=
  ⟨fun he _ => .past he fun a j _ => (hf a).gives he j⟩

section
variable (x y z : Expr) (xs : List Expr) (cs : List Clause)

instance (attr : String) : Builds (Pure.pure fun s => .attribute s x attr) := pure fun _ => rfl
instance : Builds (Pure.pure fun s => .subscript s x y) := pure fun _ => rfl
instance : Builds (Pure.pure fun s => .starred s x) := pure fun _ => rfl
instance (ks : List Keyword) : Builds (Pure.pure fun s => .call s x xs ks) := pure fun _ => rfl
instance optionalCall (args : Option Arguments) : Builds (Pure.pure fun s =>
    match args with
    | some a => .call s x a.args a.keywords
    | none => .call s x [] []) := pure fun _ => by cases args <;> rfl
instance (op : SignOp) : Builds (Pure.pure fun s => .sign s op x) := pure fun _ => rfl
instance (op : BinaryOp) : Builds (Pure.pure fun s => .binary s x op y) := pure fun _ => rfl
instance (op : LogicOp) : Builds (Pure.pure fun s => .logic s op xs) := pure fun _ => rfl
instance (rest : List Comparison) : Builds (Pure.pure fun s => .compare s x rest) :=
  pure fun _ => rfl
instance : Builds (Pure.pure fun s => .choice s x y z) := pure fun _ => rfl
instance (ps : Params) : Builds (Pure.pure fun s => .lambda s ps x) := pure fun _ => rfl
instance : Builds (Pure.pure fun s => .assignment s x y) := pure fun _ => rfl
instance : Builds (Pure.pure fun s => .tuple s xs) := pure fun _ => rfl
instance : Builds (Pure.pure fun s => .list s xs) := pure fun _ => rfl
instance : Builds (Pure.pure fun s => .set s xs) := pure fun _ => rfl
instance (items : List DictItem) : Builds (Pure.pure fun s => .dict s items) := pure fun _ => rfl
instance : Builds (Pure.pure fun s => .dictOf s x y cs) := pure fun _ => rfl
instance : Builds (Pure.pure fun s => .await s x) := pure fun _ => rfl
instance (value : Option Expr) : Builds (Pure.pure fun s => .yield s value) := pure fun _ => rfl
instance : Builds (Pure.pure fun s => .yieldFrom s x) := pure fun _ => rfl

end
end Builds

/-! ## What readers of expressions give -/

theorem stands_of_token {t : Token} (ht : tokens[i]? = some t) (hedge : t.kind.isEdge = false)
    {x : Expr} (hx : x.span = t.span) : Stands tokens i x (i + 1) := by
  refine ⟨⟨⟨t, ht, hedge⟩, Nat.lt_succ_self i⟩,
    i, t, i + 1, ht, hedge, Nat.lt_succ_self i, Nat.le_refl _, ?_⟩
  rw [lastSpan_succ ht, hedge, hx]
  rfl

section
variable (he : e.Keeps Phrase.stands)
include he

/-- An expression that is built from all the tokens a reader takes. -/
theorem spanned_gives {p : Reading (Span → Expr)} [Solid p] [Builds p] :
    (spanned p).Gives Phrase.stands e i (Stands e.list.tokens i) := by
  refine .spanned fun first hfirst => ?_
  refine ((Solid.gives he i).and (Builds.gives he i)).mono fun build j _ ⟨hsolid, hbuild⟩ => ?_
  obtain ⟨⟨t, ht, hedge⟩, hij⟩ := hsolid
  obtain rfl := Option.some.inj (hfirst.symm.trans ht)
  exact ⟨⟨⟨first, hfirst, hedge⟩, hij⟩,
    i, first, j, hfirst, hedge, hij, Nat.le_refl j, hbuild _⟩

/-- An expression and what is only looked at or left out behind it. -/
theorem behind_gives {p : Reading Expr} {q : Reading α} [Forward Phrase.stands q]
    (hp : p.Gives Phrase.stands e i (Stands e.list.tokens i)) :
    (do let x ← p; let _ ← q; return x : Reading Expr).Gives Phrase.stands e i
      (Stands e.list.tokens i) :=
  hp.bind fun _ _ _ hx => .past he fun _ _ hjk => .pure (hx.to_le hjk)

theorem bracketed_gives {p : Reading Expr} {o q : Reading Unit} [Solid o] [Forward Phrase.stands q]
    (hp : ∀ j, p.Gives Phrase.stands e j (Stands e.list.tokens j)) :
    (do o; let x ← p; q; return x : Reading Expr).Gives Phrase.stands e i
      (Stands e.list.tokens i) := by
  refine (Solid.gives he i).bind fun _ j _ ho => (behind_gives he (hp j)).mono fun x k hjk hx => ?_
  exact ⟨⟨ho.1, Nat.lt_of_lt_of_le ho.2 hjk⟩, hx.covers⟩

end

namespace Grammar

-- some rules of the grammar have more alternatives than the default allows for
set_option synthInstance.maxSize 1000

/-! ## Tokens and lists -/

theorem tokenIf_gives {promise : Phrase.Promise} {test : Token → Bool}
    (h : ∀ t, test t = true → t.kind.isEdge = false) :
    (tokenIf test).Gives promise e i fun t j =>
      j = i + 1 ∧ e.list.tokens[i]? = some t ∧ t.kind.isEdge = false :=
  .tokenIf fun t ht htest => ⟨rfl, ht, h t htest⟩

theorem constant_gives {test : Token → Bool} (h : ∀ t, test t = true → t.kind.isEdge = false)
    (value : Literal) : (constant (tokenIf test) value).Gives Phrase.stands e i
      (Stands e.list.tokens i) :=
  (tokenIf_gives h).bind fun _ _ _ ⟨hj, ht, hedge⟩ => .pure (hj ▸ stands_of_token ht hedge rfl)

theorem name_gives : name.Gives Phrase.stands e i (Stands e.list.tokens i) := by
  unfold name nameToken
  exact (tokenIf_gives fun _ => Solid.isEdge_of_kind rfl).bind fun _ _ _ ⟨hj, ht, hedge⟩ =>
    .pure (hj ▸ stands_of_token ht hedge rfl)

theorem number_gives : number.Gives Phrase.stands e i (Stands e.list.tokens i) := by
  have hkind : ∀ t : Token, decide (t.kind = .number) = true → t.kind.isEdge = false := by
    intro t h
    rw [of_decide_eq_true h]
    rfl
  unfold number kindToken
  refine (tokenIf_gives hkind).bind fun t j _ ⟨hj, ht, hedge⟩ => ?_
  split
  · exact .pure (hj ▸ stands_of_token ht hedge rfl)
  · exact .refuseAt _

section
variable (he : e.Keeps Phrase.stands)
include he

theorem trap_gives {p : Reading Unit} [Forward Phrase.stands p] :
    (trap p : Reading Expr).Gives Phrase.stands e i (Stands e.list.tokens i) :=
  .trap (Forward.gives he i)

theorem tupleOr_gives {p : Reading Expr} [Solid p] [Forward Phrase.stands p]
    (hp : p.Gives Phrase.stands e i (Stands e.list.tokens i)) :
    (tupleOr p).Gives Phrase.stands e i (Stands e.list.tokens i) :=
  .orElse (spanned_gives he) (.orElse (spanned_gives he) hp)

theorem starExpressions_gives : starExpressions.Gives Phrase.stands e i (Stands e.list.tokens i) :=
  tupleOr_gives he (.phrase he .starExpression)

theorem assignmentExpression_gives :
    assignmentExpression.Gives Phrase.stands e i (Stands e.list.tokens i) :=
  spanned_gives he

theorem plainExpression_gives : plainExpression.Gives Phrase.stands e i (Stands e.list.tokens i) :=
  behind_gives he (.phrase he .expression)

theorem namedExpression_gives : namedExpression.Gives Phrase.stands e i (Stands e.list.tokens i) :=
  .orElse (assignmentExpression_gives he) (.orElse (trap_gives he) (plainExpression_gives he))

theorem yieldExpression_gives : yieldExpression.Gives Phrase.stands e i (Stands e.list.tokens i) :=
  .orElse (spanned_gives he) (spanned_gives he)

theorem starTargets_gives : starTargets.Gives Phrase.stands e i (Stands e.list.tokens i) :=
  .orElse (behind_gives he (.phrase he .target)) (spanned_gives he)

/-! ## Brackets -/

theorem comprehension_gives (opening closing : String) {item : Reading Expr}
    [Forward Phrase.stands item] {build : Span → Expr → List Clause → Expr}
    (hbuild : ∀ s x cs, (build s x cs).span = s) :
    (comprehension opening closing item build).Gives Phrase.stands e i
      (Stands e.list.tokens i) := by
  have (x : Expr) (cs : List Clause) : Builds (Pure.pure fun s => build s x cs) :=
    .pure fun s => hbuild s x cs
  unfold comprehension comprehensionTrap
  exact .orElse (spanned_gives he) (trap_gives he)

theorem list_gives : list.Gives Phrase.stands e i (Stands e.list.tokens i) := spanned_gives he

theorem tuple_gives : tuple.Gives Phrase.stands e i (Stands e.list.tokens i) := spanned_gives he

theorem group_gives : group.Gives Phrase.stands e i (Stands e.list.tokens i) := by
  unfold group groupTrap
  exact .orElse (bracketed_gives he fun _ =>
    .orElse (yieldExpression_gives he) (namedExpression_gives he)) (trap_gives he)

theorem dict_gives : dict.Gives Phrase.stands e i (Stands e.list.tokens i) := by
  unfold dict dictItemsTrap keyValueTrap
  exact .orElse (spanned_gives he) (.past he fun _ _ _ => .past he fun _ _ _ => .absent)

theorem dictComprehension_gives :
    dictComprehension.Gives Phrase.stands e i (Stands e.list.tokens i) := by
  unfold dictComprehension dictComprehensionTrap
  exact .orElse (spanned_gives he) (trap_gives he)

instance joinedStrings (joined : Joined) (isBytes marked : Bool) : Builds (Pure.pure fun s =>
    if joined.formatted then .formatted s (joinText joined.pieces)
    else if isBytes then .literal s (.bytes joined.bytes)
    else match joinText joined.pieces with
      | .text ps :: _ => .literal s (.text ps marked)
      | _ => .literal s (.text [] marked)) := by
  refine .pure fun s => ?_
  split
  · rfl
  split
  · rfl
  split <;> rfl

theorem stringsBody_gives : stringsBody.Gives Phrase.stands e i (Stands e.list.tokens i) :=
  spanned_gives he

theorem ahead_gives {p : Reading α} {q : Reading β} {P : β → Nat → Prop} [Forward Phrase.stands p]
    (hq : q.Gives Phrase.stands e i P) : (do ahead p; q : Reading β).Gives Phrase.stands e i P := by
  have hstill : (ahead p).Gives Phrase.stands e i fun _ j => j = i :=
    .ahead ((Forward.gives he i).mono fun _ _ _ _ => rfl)
  refine hstill.bind ?_
  rintro _ _ - rfl
  exact hq

theorem atom_gives : atom.Gives Phrase.stands e i (Stands e.list.tokens i) := by
  have hkeyword : ∀ (text : String) (value : Literal), (constant (wordToken text) value).Gives
      Phrase.stands e i (Stands e.list.tokens i) :=
    fun _ => constant_gives fun _ => Solid.isEdge_of_kind rfl
  unfold atom
  refine .orElse name_gives (.orElse (hkeyword "True" _) (.orElse (hkeyword "False" _)
    (.orElse (hkeyword "None" _) (.orElse ?_ (.orElse number_gives (.orElse ?_ (.orElse ?_
    (.orElse ?_ ?_))))))))
  · exact ahead_gives he (.phrase he .strings)
  · exact ahead_gives he (.orElse (tuple_gives he) (.orElse (group_gives he)
      (comprehension_gives he _ _ fun _ _ _ => rfl)))
  · exact ahead_gives he (.orElse (list_gives he) (comprehension_gives he _ _ fun _ _ _ => rfl))
  · exact ahead_gives he (.orElse (dict_gives he) (.orElse (spanned_gives he)
      (.orElse (dictComprehension_gives he) (comprehension_gives he _ _ fun _ _ _ => rfl))))
  · exact constant_gives (fun _ => Solid.isEdge_of_kind rfl) .ellipsis

/-! ## Operators -/

theorem expressionBody_gives : expressionBody.Gives Phrase.stands e i (Stands e.list.tokens i) := by
  unfold expressionBody oldCommandTrap
  exact .orElse (trap_gives he) (.orElse (trap_gives he) (.orElse (spanned_gives he)
    (.orElse (.phrase he .disjunction) (spanned_gives he))))

theorem starExpressionBody_gives :
    starExpressionBody.Gives Phrase.stands e i (Stands e.list.tokens i) :=
  .orElse (spanned_gives he) (.phrase he .expression)

theorem logicBody_gives (operator : String) (op : LogicOp) {operand : Reading Expr} [Solid operand]
    [Forward Phrase.stands operand]
    (hoperand : operand.Gives Phrase.stands e i (Stands e.list.tokens i)) :
    (logicBody operator op operand).Gives Phrase.stands e i (Stands e.list.tokens i) :=
  .orElse (spanned_gives he) hoperand

theorem inversionBody_gives : inversionBody.Gives Phrase.stands e i (Stands e.list.tokens i) :=
  .orElse (spanned_gives he) (.orElse (spanned_gives he) (.phrase he .bitOr))

theorem binary_gives {left right : Reading Expr} (operator : String) (op : BinaryOp) [Solid left]
    [Forward Phrase.stands left] [Forward Phrase.stands right] :
    (binary left right operator op).Gives Phrase.stands e i (Stands e.list.tokens i) :=
  spanned_gives he

theorem factorBody_gives : factorBody.Gives Phrase.stands e i (Stands e.list.tokens i) :=
  .orElse (spanned_gives he) (.orElse (spanned_gives he) (.orElse (spanned_gives he)
    (.orElse (binary_gives he _ _) (.phrase he .awaited))))

theorem awaitedBody_gives : awaitedBody.Gives Phrase.stands e i (Stands e.list.tokens i) :=
  .orElse (spanned_gives he) (.phrase he .primary)

theorem primaryBody_gives : primaryBody.Gives Phrase.stands e i (Stands e.list.tokens i) :=
  .orElse (spanned_gives he) (.orElse (spanned_gives he) (.orElse (spanned_gives he)
    (.orElse (spanned_gives he) (atom_gives he))))

/-! ## Targets -/

theorem memberTarget_gives : memberTarget.Gives Phrase.stands e i (Stands e.list.tokens i) :=
  .orElse (spanned_gives he) (spanned_gives he)

theorem targetPrimaryBody_gives :
    targetPrimaryBody.Gives Phrase.stands e i (Stands e.list.tokens i) :=
  .orElse (spanned_gives he) (.orElse (spanned_gives he) (.orElse (spanned_gives he)
    (.orElse (spanned_gives he) (behind_gives he (atom_gives he)))))

theorem targetBody_gives : targetBody.Gives Phrase.stands e i (Stands e.list.tokens i) :=
  .orElse (spanned_gives he) (.phrase he .targetAtom)

theorem targetAtomBody_gives : targetAtomBody.Gives Phrase.stands e i (Stands e.list.tokens i) := by
  unfold targetAtomBody tupleTargets
  exact .orElse (memberTarget_gives he) (.orElse name_gives (.orElse
    (bracketed_gives he fun _ => .phrase he .targetAtom)
    (.orElse (spanned_gives he) (spanned_gives he))))

theorem deletedBody_gives : deletedBody.Gives Phrase.stands e i (Stands e.list.tokens i) :=
  .orElse (memberTarget_gives he) (.orElse name_gives (.orElse
    (bracketed_gives he fun _ => .phrase he .deleted)
    (.orElse (spanned_gives he) (spanned_gives he))))

theorem singleTargetBody_gives :
    singleTargetBody.Gives Phrase.stands e i (Stands e.list.tokens i) :=
  .orElse (memberTarget_gives he) (.orElse name_gives
    (bracketed_gives he fun _ => .phrase he .singleTarget))

theorem annotationTargetBody_gives :
    annotationTargetBody.Gives Phrase.stands e i (Stands e.list.tokens i) :=
  .orElse (list_gives he) (.orElse (tuple_gives he)
    (bracketed_gives he fun _ => .phrase he .annotationTarget))

end
end Grammar
end RecordLens.Code
