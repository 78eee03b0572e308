import RecordLens.Proofs.NormalForms
import RecordLens.Proofs.Places
import RecordLens.Proofs.StatementOrder
/-!
Types that are written have a text. Most forms of expression are written with a mark or a word of their
own; a name has the letters of its token, and the words of `and` and `or` and of comparisons stand
between two operands. So no expression that is read from a text is written as nothing, and neither is
the type of an annotation.

* `Expr.Spelt`: the form of the expressions that are read; `Expr.text_ne_empty`: they are written.
* `ReadsSpelt`: the readers that give them, with a rule for each way of combining readers.
* `typesHaveText_of_parse`: the annotations of a text, however deep in its statements.
-/
namespace RecordLens

/-! ## Normal forms -/

namespace Text

variable {p starter : Nat} {marks ps done : List Nat}

theorem decompose_ne_nil (p : Nat) : decompose p ≠ [] := by
  unfold decompose syllableLetters
  dsimp only
  split
  · exact List.cons_ne_nil p []
  split
  · split <;> exact List.cons_ne_nil _ _
  split
  · split
    · split <;> exact List.cons_ne_nil _ _
    · exact List.cons_ne_nil p []
  · exact List.cons_ne_nil p []

theorem length_placeMark (p : Nat) (done : List Nat) :
    (placeMark p done).length = done.length + 1 := by
  induction done with
  | nil => rfl
  | cons q qs ih =>
    rw [placeMark]
    split
    · rw [List.length_cons, ih, List.length_cons]
    · rfl

theorem length_orderMarks (done ps : List Nat) :
    (orderMarks done ps).length = done.length + ps.length := by
  induction ps generalizing done with
  | nil => exact List.length_reverse
  | cons p ps ih =>
    have hplaced : (if combiningClass p = 0 then p :: done else placeMark p done).length =
        done.length + 1 := by
      split
      · rfl
      · exact length_placeMark p done
    rw [orderMarks, ih, hplaced, List.length_cons]
    omega

theorem composeFrom_ne_nil (starter : Nat) (marks ps : List Nat) : composeFrom starter marks ps ≠ [] := by
  induction ps generalizing starter marks with
  | nil => exact List.cons_ne_nil _ _
  | cons p ps ih =>
    rw [composeFrom.eq_def]
    dsimp only
    split
    · exact ih _ _
    split
    · exact List.cons_ne_nil _ _
    · exact ih _ _

theorem composeAll_ne_nil (h : ps ≠ []) : composeAll ps ≠ [] := by
  obtain ⟨p, ps, rfl⟩ := List.exists_cons_of_ne_nil h
  rw [composeAll]
  split
  · exact composeFrom_ne_nil p [] ps
  · exact List.cons_ne_nil _ _

theorem ofPoints_ne_empty (h : ps ≠ []) : ofPoints ps ≠ "" := by
  rw [ofPoints, Ne, ← String.toList_eq_nil_iff, String.toList_ofList, List.map_eq_nil_iff]
  exact h

/-- **The normal form of a name has characters if the name has some.** -/
theorem normalForm_ne_empty {name : String} (h : name ≠ "") : normalForm name ≠ "" := by
  unfold normalForm
  split
  · exact h
  · refine ofPoints_ne_empty (composeAll_ne_nil fun hnil => ?_)
    have hlength := length_orderMarks [] ((points name).flatMap decompose)
    rw [hnil, List.length_nil, Nat.zero_add] at hlength
    have hparts := List.flatMap_eq_nil_iff.1 (List.eq_nil_of_length_eq_zero hlength.symm)
    obtain ⟨c, cs, hcs⟩ := List.exists_cons_of_ne_nil (mt String.toList_eq_nil_iff.1 h)
    refine decompose_ne_nil c.toNat (hparts _ (List.mem_map_of_mem ?_))
    rw [hcs]
    exact List.mem_cons_self

end Text

namespace Decimal

theorem natDigits_ne_nil (n : Nat) : natDigits n ≠ [] := by
  have hdigits : ∀ (fuel m : Nat) (acc : List Char), acc ≠ [] → digitsOf fuel m acc ≠ [] := by
    intro fuel
    induction fuel with
    | zero => exact fun _ _ h => h
    | succ fuel ih =>
      intro m acc _
      rw [digitsOf]
      split
      · exact List.cons_ne_nil _ _
      · exact ih _ _ (List.cons_ne_nil _ _)
  rw [natDigits, digitsOf]
  split
  · exact List.cons_ne_nil _ _
  · exact hdigits _ _ _ (List.cons_ne_nil _ _)

theorem exponentText_ne_empty (x : Int) : exponentText x ≠ "" := by
  unfold exponentText
  dsimp only
  split <;> simp [String.append_eq_empty_iff]

theorem Binary64.text_ne_empty (layout : Layout) (x : Binary64) : x.text layout ≠ "" := by
  cases x with
  | infinite => exact ne_of_beq_false rfl
  | finite m e =>
    rw [Binary64.text]
    generalize shortest m e = parts
    obtain ⟨digits, point⟩ := parts
    dsimp only
    unfold Layout.write
    dsimp only
    split
    · split
      · simp [String.append_eq_empty_iff]
      next hpoint =>
        have hzeros : digits.take point.toNat ++
            List.replicate (point.toNat - (digits.take point.toNat).length) '0' ≠ [] := by
          intro hnil
          have hlength := congrArg List.length hnil
          rw [List.length_append, List.length_replicate, List.length_nil] at hlength
          omega
        have hwhole := mt String.ofList_eq_empty_iff.1 hzeros
        split
        · exact fun h => hwhole (String.append_eq_empty_iff.1 h).1
        · simp [String.append_eq_empty_iff]
    · simp [String.append_eq_empty_iff, exponentText_ne_empty]

end Decimal

namespace Code

open Reading Grammar

/-! ## Expressions with a text -/

theorem literal_ne_empty (value : Literal) : Yields (value.write false) (· ≠ "") := by
  cases value with
  | none | ellipsis => exact .ok (by decide)
  | bool value => cases value <;> exact .ok (by decide)
  | int n =>
    rw [Literal.write]
    split
    · exact .error _
    · exact .ok (mt String.ofList_eq_empty_iff.1 (Decimal.natDigits_ne_nil n))
  | real x => exact .ok (Decimal.Binary64.text_ne_empty _ x)
  | imaginary x => exact .ok fun h => Decimal.Binary64.text_ne_empty _ x (String.append_eq_empty_iff.1 h).1
  | text ps marked =>
    have hquoted : Text.ofPoints (Text.quoted ps) ≠ "" :=
      Text.ofPoints_ne_empty (List.cons_ne_nil _ _)
    exact .ok fun h => hquoted (String.append_eq_empty_iff.1 h).2
  | bytes bs => exact .ok (Text.ofPoints_ne_empty (List.cons_ne_nil _ _))

section
variable (tokens : Array Token)

/-- The forms of the expressions that are read: a name is the normal form of a token, `and` and `or` have
    at least two operands, and a comparison compares with something. -/
def Expr.Spelt : Expr → Prop
  | .name _ id => ∃ t ∈ tokens, t.kind = .name ∧ id = Text.normalForm t.text
  | .logic _ _ operands => ∃ x y rest, operands = x :: y :: rest
  | .compare _ _ rest => ∃ op right more, rest = .mk op right :: more
  | _ => True

end

theorem bracketIf_ne_empty {c : Bool} {text : String} (h : text ≠ "") : bracketIf c text ≠ "" := by
  unfold bracketIf
  split
  · simp [String.append_eq_empty_iff]
  · exact h

theorem tupleText_ne_empty {texts : List String} (h : texts ≠ []) : tupleText texts ≠ "" := by
  unfold tupleText
  split
  · simp [String.append_eq_empty_iff]
  next hne =>
    obtain ⟨t, rest, rfl⟩ := List.exists_cons_of_ne_nil h
    cases rest with
    | nil => exact absurd rfl (hne t)
    | cons u more => simp [String.intercalate_cons_cons, String.append_eq_empty_iff]

/-- **An expression that was read is written as something.** -/
theorem Expr.text_ne_empty {tokens : Array Token}
    (htokens : ∀ t ∈ tokens, t.kind = .name → t.text ≠ "") :
    ∀ {x : Expr}, x.Spelt tokens → Yields x.text (· ≠ "")
  | .name _ _, ⟨t, ht, hkind, hid⟩ => by
    rw [Expr.text, Expr.write, hid]
    exact .ok (Text.normalForm_ne_empty (htokens t ht hkind))
  | .literal _ value, _ => by
    rw [Expr.text, Expr.write]
    exact literal_ne_empty value
  | .attribute _ value attr, _ => by
    rw [Expr.text, Expr.write_attribute]
    refine Yields.map (P := fun _ => True) (fun _ _ => trivial) fun _ _ => ?_
    simp [String.append_eq_empty_iff]
  | .subscript _ value index, _ => by
    rw [Expr.text, Expr.write_subscript]
    exact .past fun _ => .past fun _ => .ok (by simp [String.append_eq_empty_iff])
  | .logic _ op _, ⟨x, y, rest, hoperands⟩ => by
    simp only [Expr.text, hoperands, Expr.write, writeRising, bind_assoc, pure_bind]
    refine .past fun _ => .past fun _ => .past fun _ => .ok (bracketIf_ne_empty ?_)
    cases op <;> simp [String.intercalate_cons_cons, String.append_eq_empty_iff, LogicOp.text]
  | .tuple _ [], _ => by
    rw [Expr.text, Expr.write]
    exact .ok (by decide)
  | .tuple _ (x :: xs), _ => by
    simp only [Expr.text, Expr.write, writeEach, bind_assoc, pure_bind]
    exact .past fun _ => .past fun _ => .ok (bracketIf_ne_empty (tupleText_ne_empty (List.cons_ne_nil _ _)))
  | .yield _ none, _ => by
    rw [Expr.text, Expr.write]
    exact .ok (by decide)
  | .yield _ (some value), _ => by
    rw [Expr.text, Expr.write]
    exact .past fun _ => .ok (bracketIf_ne_empty (by simp [String.append_eq_empty_iff]))
  | .formatted _ pieces, _ => by
    rw [Expr.text, Expr.write]
    exact .past fun _ => .ok (by simp [String.append_eq_empty_iff])
  | .starred _ _, _ | .list _ _, _ | .set _ _, _ | .dict _ _, _ => by
    rw [Expr.text, Expr.write]
    exact .past fun _ => .ok (by simp [String.append_eq_empty_iff])
  | .sign _ op _, _ => by
    rw [Expr.text, Expr.write]
    refine .past fun _ => .ok (bracketIf_ne_empty ?_)
    cases op <;> simp [String.append_eq_empty_iff, SignOp.text]
  | .await _ _, _ | .yieldFrom _ _, _ => by
    rw [Expr.text, Expr.write]
    exact .past fun _ => .ok (bracketIf_ne_empty (by simp [String.append_eq_empty_iff]))
  | .binary _ _ _ _, _ | .assignment _ _ _, _ | .lambda _ _ _, _ => by
    rw [Expr.text, Expr.write]
    exact .past fun _ => .past fun _ => .ok (bracketIf_ne_empty (by simp [String.append_eq_empty_iff]))
  | .compare _ _ _, ⟨op, right, more, hrest⟩ => by
    simp only [Expr.text, hrest, Expr.write, writeComparisons, bind_assoc, pure_bind]
    exact .past fun _ => .past fun _ => .past fun _ =>
      .ok (bracketIf_ne_empty (by simp [String.append_eq_empty_iff]))
  | .choice _ _ _ _, _ => by
    rw [Expr.text, Expr.write]
    exact .past fun _ => .past fun _ => .past fun _ =>
      .ok (bracketIf_ne_empty (by simp [String.append_eq_empty_iff]))
  | .listOf _ _ _, _ | .setOf _ _ _, _ | .generator _ _ _, _ => by
    rw [Expr.text, Expr.write]
    exact .past fun _ => .past fun _ => .ok (by simp [String.append_eq_empty_iff])
  | .call _ _ _ _, _ | .dictOf _ _ _ _, _ | .slice _ _ _ _, _ => by
    rw [Expr.text, Expr.write]
    exact .past fun _ => .past fun _ => .past fun _ => .ok (by simp [String.append_eq_empty_iff])

/-! ## Readers -/

/-- Results that are, or hold, expressions that are read. -/
class Spelling (α : Type) where
  Spelt : Array Token → α → Prop

open Spelling (Spelt)

/-- A simple statement whose type is an expression that is read, if it has one. -/
def Stmt.Spelt (tokens : Array Token) : Stmt → Prop
  | .annotate _ _ type _ => type.Spelt tokens
  | .classDef _ _ _ _ _ | .functionDef _ _ _ _ _ _ | .compound _ _ => False
  | _ => True

theorem Stmt.Spelt.throughout {tokens : Array Token} {s : Stmt} (h : s.Spelt tokens) :
    ThroughoutIn (Stmt.Spelt tokens) s := by
  cases s <;> first | exact h.elim | exact List.forall_mem_singleton.2 h

instance : Spelling Expr := ⟨Expr.Spelt⟩
instance : Spelling Stmt := ⟨Stmt.Spelt⟩

instance {α : Type} [Spelling α] : Spelling (Span → α) :=
  ⟨fun tokens build => ∀ s, Spelt tokens (build s)⟩

/-- Results of which nothing more has to be known. -/
class Plain {α : Type} [Spelling α] (a : α) : Prop where
  spelt : ∀ tokens, Spelt tokens a

/-- What is promised of phrases: expressions and the types of statements are such expressions. -/
def Phrase.spelt (tokens : Array Token) : (p : Phrase) → p.Result → Nat → Nat → Prop
  | .expression, x, _, _ | .starExpression, x, _, _ | .disjunction, x, _, _ | .conjunction, x, _, _
  | .inversion, x, _, _ | .bitOr, x, _, _ | .bitXor, x, _, _ | .bitAnd, x, _, _ | .shift, x, _, _
  | .sum, x, _, _ | .product, x, _, _ | .factor, x, _, _ | .awaited, x, _, _ | .primary, x, _, _
  | .strings, x, _, _ => Expr.Spelt tokens x
  | .simpleStatement, s, _, _ => Stmt.Spelt tokens s
  | .block, ss, _, _ => Throughout (Stmt.Spelt tokens) ss
  | .elifBranch, s, _, _ => ThroughoutIn (Stmt.Spelt tokens) s
  | _, _, _, _ => True

/-- A reader whose results are such expressions, or hold them. -/
class ReadsSpelt {α : Type} [Spelling α] (p : Reading α) : Prop where
  gives : ∀ {e : Setting}, e.Keeps Phrase.spelt → ∀ i,
    p.Gives Phrase.spelt e i fun a _ => Spelt e.list.tokens a

namespace Plain

variable (span : Span) (x y z : Expr) (xs : List Expr) (cs : List Clause)

instance {α : Type} [Spelling α] {build : Span → α} [h : ∀ s, Plain (build s)] : Plain build :=
  ⟨fun tokens s => (h s).spelt tokens⟩

instance (value : Literal) : Plain (Expr.literal span value) := ⟨fun _ => trivial⟩
instance (attr : String) : Plain (Expr.attribute span x attr) := ⟨fun _ => trivial⟩
instance : Plain (Expr.subscript span x y) := ⟨fun _ => trivial⟩
instance : Plain (Expr.starred span x) := ⟨fun _ => trivial⟩
instance (ks : List Keyword) : Plain (Expr.call span x xs ks) := ⟨fun _ => trivial⟩
instance (op : SignOp) : Plain (Expr.sign span op x) := ⟨fun _ => trivial⟩
instance (op : BinaryOp) : Plain (Expr.binary span x op y) := ⟨fun _ => trivial⟩
instance : Plain (Expr.choice span x y z) := ⟨fun _ => trivial⟩
instance (ps : Params) : Plain (Expr.lambda span ps x) := ⟨fun _ => trivial⟩
instance : Plain (Expr.assignment span x y) := ⟨fun _ => trivial⟩
instance : Plain (Expr.tuple span xs) := ⟨fun _ => trivial⟩
instance : Plain (Expr.list span xs) := ⟨fun _ => trivial⟩
instance : Plain (Expr.set span xs) := ⟨fun _ => trivial⟩
instance (items : List DictItem) : Plain (Expr.dict span items) := ⟨fun _ => trivial⟩
instance : Plain (Expr.listOf span x cs) := ⟨fun _ => trivial⟩
instance : Plain (Expr.setOf span x cs) := ⟨fun _ => trivial⟩
instance : Plain (Expr.dictOf span x y cs) := ⟨fun _ => trivial⟩
instance : Plain (Expr.generator span x cs) := ⟨fun _ => trivial⟩
instance : Plain (Expr.await span x) := ⟨fun _ => trivial⟩
instance (value : Option Expr) : Plain (Expr.yield span value) := ⟨fun _ => trivial⟩
instance : Plain (Expr.yieldFrom span x) := ⟨fun _ => trivial⟩

instance : Plain (Stmt.assign span xs x) := ⟨fun _ => trivial⟩
instance : Plain (Stmt.evaluate span x) := ⟨fun _ => trivial⟩
instance : Plain (Stmt.simple span) := ⟨fun _ => trivial⟩
instance (names : List Alias) : Plain (Stmt.importModules span names) := ⟨fun _ => trivial⟩

instance (level : Nat) (module : Option String) (names : List Alias) :
    Plain (Stmt.importFrom span level module names) := ⟨fun _ => trivial⟩

instance optionalCall (args : Option Arguments) : Plain (fun s =>
    match args with
    | some a => .call s x a.args a.keywords
    | none => .call s x [] [] : Span → Expr) := by
  refine ⟨fun _ s => ?_⟩
  cases args <;> trivial

instance joinedStrings (joined : Grammar.Joined) (isBytes marked : Bool) : Plain (fun s =>
    if joined.formatted then .formatted s (joinText joined.pieces)
    else if isBytes then .literal s (.bytes joined.bytes)
    else match joinText joined.pieces with
      | .text ps :: _ => .literal s (.text ps marked)
      | _ => .literal s (.text [] marked) : Span → Expr) := by
  refine ⟨fun _ s => ?_⟩
  show Expr.Spelt _ (ite _ _ _)
  split
  · trivial
  split
  · trivial
  split <;> trivial

end Plain

namespace ReadsSpelt

section
variable {α β : Type} [Spelling α] {p q : Reading α}

instance {a : α} [h : Plain a] : ReadsSpelt (pure a : Reading α) := ⟨fun _ _ => .pure (h.spelt _)⟩

instance {p : Reading β} {f : β → Reading α} [hp : Forward Phrase.spelt p] [hf : ∀ b, ReadsSpelt (f b)] :
    ReadsSpelt (p >>= f) :=
  ⟨fun he _ => .past he fun b j _ => (hf b).gives he j⟩

/-- What stands behind is only looked at or left out. -/
instance {q : Reading β} [hp : ReadsSpelt p] [hq : Forward Phrase.spelt q] :
    ReadsSpelt (p >>= fun a => q >>= fun _ => pure a) :=
  ⟨fun he i => (hp.gives he i).bind fun _ _ _ ha => .past he fun _ _ _ => .pure ha⟩

instance {p : Reading β} {f : β → Reading α} [hp : Forward Phrase.spelt p] [hf : ∀ b, ReadsSpelt (f b)]
    [hq : ReadsSpelt q] : ReadsSpelt (commit p f q) :=
  ⟨fun he i => (hp.gives he i).commit (fun b j _ _ => (hf b).gives he j) (hq.gives he i)⟩

instance : ReadsSpelt (absent : Reading α) := ⟨fun _ _ => .absent⟩

instance (line : Nat) : ReadsSpelt (refuseAt line : Reading α) := ⟨fun _ _ => .refuseAt line⟩

instance [hp : ReadsSpelt p] [hq : ReadsSpelt q] : ReadsSpelt (p <|> q) :=
  ⟨fun he i => (hp.gives he i).orElse (hq.gives he i)⟩

instance {p : Reading Unit} [hp : Forward Phrase.spelt p] : ReadsSpelt (trap p : Reading α) :=
  ⟨fun he i => .trap (hp.gives he i)⟩

instance {p : Reading (Span → α)} [hp : ReadsSpelt p] : ReadsSpelt (spanned p) :=
  ⟨fun he i => .spanned fun _ _ => (hp.gives he i).mono fun _ _ _ h => h _⟩

end

end ReadsSpelt

/-! ## Rules -/

namespace Grammar

-- some rules of the grammar have more alternatives than the default allows for
set_option synthInstance.maxSize 1000

instance : ReadsSpelt expression := ⟨fun he _ => .phrase he .expression⟩
instance : ReadsSpelt disjunction := ⟨fun he _ => .phrase he .disjunction⟩
instance : ReadsSpelt conjunction := ⟨fun he _ => .phrase he .conjunction⟩
instance : ReadsSpelt inversion := ⟨fun he _ => .phrase he .inversion⟩
instance : ReadsSpelt bitOr := ⟨fun he _ => .phrase he .bitOr⟩
instance : ReadsSpelt bitXor := ⟨fun he _ => .phrase he .bitXor⟩
instance : ReadsSpelt bitAnd := ⟨fun he _ => .phrase he .bitAnd⟩
instance : ReadsSpelt shift := ⟨fun he _ => .phrase he .shift⟩
instance : ReadsSpelt sum := ⟨fun he _ => .phrase he .sum⟩
instance : ReadsSpelt product := ⟨fun he _ => .phrase he .product⟩
instance : ReadsSpelt factor := ⟨fun he _ => .phrase he .factor⟩
instance : ReadsSpelt awaited := ⟨fun he _ => .phrase he .awaited⟩
instance : ReadsSpelt primary := ⟨fun he _ => .phrase he .primary⟩
instance : ReadsSpelt strings := ⟨fun he _ => .phrase he .strings⟩

theorem nameToken_gives {promise : Phrase.Promise} {e : Setting} {i : Nat} :
    nameToken.Gives promise e i fun t _ => t ∈ e.list.tokens ∧ t.kind = .name :=
  .tokenIf fun _ ht hname =>
    ⟨Array.mem_of_getElem? ht, of_decide_eq_true (Bool.and_eq_true_iff.1 hname).1⟩

instance : ReadsSpelt name := by
  refine ⟨fun {e} _ i => ?_⟩
  unfold name
  exact nameToken_gives.bind fun t _ _ ⟨ht, hkind⟩ => .pure ⟨t, ht, hkind, rfl⟩

instance : ReadsSpelt assignmentExpression := by unfold assignmentExpression; infer_instance
instance : ReadsSpelt namedExpression := by unfold namedExpression; infer_instance
instance : ReadsSpelt yieldExpression := by unfold yieldExpression; infer_instance

/-! ### Brackets -/

instance (opening closing : String) {item : Reading Expr} [Forward Phrase.spelt item]
    {build : Span → Expr → List Clause → Expr} [∀ s x cs, Plain (build s x cs)] :
    ReadsSpelt (comprehension opening closing item build) := by
  unfold comprehension comprehensionTrap
  infer_instance

instance : ReadsSpelt generator := by unfold generator; infer_instance
instance : ReadsSpelt list := by unfold list; infer_instance
instance : ReadsSpelt tuple := by unfold tuple; infer_instance
instance : ReadsSpelt group := by unfold group groupTrap; infer_instance
instance : ReadsSpelt set := by unfold set; infer_instance
instance : ReadsSpelt dict := by unfold dict dictItemsTrap keyValueTrap; infer_instance

instance : ReadsSpelt dictComprehension := by
  unfold dictComprehension dictComprehensionTrap
  infer_instance

instance : ReadsSpelt stringsBody := by unfold stringsBody; infer_instance

instance : ReadsSpelt number := by
  have hvalue (t : Token) : ReadsSpelt (match numberValue t.text with
      | some value => (return .literal t.span value : Reading Expr)
      | none => refuseAt t.span.line) := by
    split <;> infer_instance
  unfold number
  infer_instance

instance : ReadsSpelt atom := by
  unfold atom constant listComprehension setComprehension
  infer_instance

/-! ### Operators -/

instance : ReadsSpelt expressionBody := by unfold expressionBody oldCommandTrap choice lambda; infer_instance
instance : ReadsSpelt starExpressionBody := by unfold starExpressionBody; infer_instance

instance (operator : String) (op : LogicOp) {operand : Reading Expr} [Forward Phrase.spelt operand]
    [ReadsSpelt operand] : ReadsSpelt (logicBody operator op operand) := by
  have hseveral : ReadsSpelt (spanned (do
      let a ← operand
      let bs ← many1 (do word operator; operand)
      return fun s => Expr.logic s op (a :: bs))) := by
    refine ⟨fun he i => .spanned fun _ _ => .past he fun a _ _ => ?_⟩
    unfold many1
    exact .bind (P := fun bs _ => ∃ b rest, bs = b :: rest) (.past he fun b _ _ => .past he fun rest _ _ =>
      .pure ⟨b, rest, rfl⟩) fun bs _ _ ⟨b, rest, hbs⟩ => .pure ⟨a, b, rest, by rw [hbs]⟩
  unfold logicBody
  infer_instance

instance : ReadsSpelt inversionBody := by
  have hseveral : ReadsSpelt (spanned (do
      let left ← bitOr
      let rest ← many1 do
        let op ← compareOp
        let right ← bitOr
        return Comparison.mk op right
      return fun s => Expr.compare s left rest)) := by
    refine ⟨fun he i => .spanned fun _ _ => .past he fun a _ _ => ?_⟩
    unfold many1
    refine .bind (P := fun rest _ => ∃ op right more, rest = Comparison.mk op right :: more) ?_
      fun rest _ _ ⟨op, right, more, hrest⟩ => .pure ⟨op, right, more, hrest⟩
    exact .bind (P := fun c _ => ∃ op right, c = Comparison.mk op right) (.past he fun op _ _ =>
      .past he fun right _ _ => .pure ⟨op, right, rfl⟩) fun c _ _ ⟨op, right, hc⟩ =>
      .past he fun more _ _ => .pure ⟨op, right, more, by rw [hc]⟩
  unfold inversionBody comparison
  infer_instance

instance {left right : Reading Expr} (operator : String) (op : BinaryOp) [Forward Phrase.spelt left]
    [Forward Phrase.spelt right] : ReadsSpelt (binary left right operator op) := by
  unfold binary
  infer_instance

instance : ReadsSpelt bitOrBody := by unfold bitOrBody; infer_instance
instance : ReadsSpelt bitXorBody := by unfold bitXorBody; infer_instance
instance : ReadsSpelt bitAndBody := by unfold bitAndBody; infer_instance
instance : ReadsSpelt shiftBody := by unfold shiftBody; infer_instance
instance : ReadsSpelt sumBody := by unfold sumBody; infer_instance
instance : ReadsSpelt productBody := by unfold productBody; infer_instance
instance : ReadsSpelt factorBody := by unfold factorBody signed; infer_instance
instance : ReadsSpelt awaitedBody := by unfold awaitedBody; infer_instance
instance : ReadsSpelt primaryBody := by unfold primaryBody; infer_instance

/-! ### Simple statements -/

instance : ReadsSpelt assignment := by
  have hannotate (t : Expr) : ReadsSpelt (do
      let (a, v) ← typeAndValue
      return fun s => .annotate s t a v : Reading (Span → Stmt)) := by
    refine ⟨fun {e} he i => .bind (P := fun r _ => Expr.Spelt e.list.tokens r.1) ?_ ?_⟩
    · refine .past he fun _ j _ => .bind (.phrase he .expression) fun a _ _ ha => ?_
      exact .past he fun _ _ _ => .pure ha
    · exact fun _ _ _ ha => .pure fun _ => ha
  -- the place of an augmented assignment is made from where reading has come to
  have hstop (first : Token) : ReadsSpelt (do
      let _ ← assignedValue
      fun e i n => .found (.simple (first.span.to (lastSpan e.list.tokens i))) i n : Reading Stmt) :=
    ⟨fun he _ => .past he fun _ k _ _ hn => ⟨hn, Nat.le_refl k, trivial⟩⟩
  unfold assignment
  infer_instance

instance (p : Reading Unit) [Forward Phrase.spelt p] : ReadsSpelt (plain p) := by
  unfold plain
  infer_instance

instance : ReadsSpelt importModules := by unfold importModules; infer_instance
instance : ReadsSpelt importFrom := by unfold importFrom; infer_instance

instance : ReadsSpelt simpleStatementBody := by
  unfold simpleStatementBody raiseStatement delete
  infer_instance

section
variable {e : Setting} {i : Nat} (he : e.Keeps Phrase.spelt)
include he

theorem simpleStatements_spelt (i : Nat) : simpleStatements.Gives Phrase.spelt e i
    fun ss _ => Throughout (Stmt.Spelt e.list.tokens) ss := by
  have hsimple (j : Nat) : simpleStatement.Gives Phrase.spelt e j
      fun s _ => ThroughoutIn (Stmt.Spelt e.list.tokens) s :=
    (Gives.phrase he .simpleStatement).mono fun _ _ _ h => Stmt.Spelt.throughout h
  unfold simpleStatements
  refine .orElse ((hsimple i).bind fun s _ _ hs => ?_) ?_
  · exact .past he fun _ _ _ => .past he fun _ _ _ => .pure (.singleton hs)
  · refine .bind (.separated_all (fun _ _ _ _ h => h) (fun j _ => Forward.gives he j)
      fun j _ => hsimple j) fun ss _ _ hss => ?_
    exact .past he fun _ _ _ => .past he fun _ _ _ => .pure (throughout_iff.2 hss)

end
end Grammar

/-! ## Whole texts -/

/-- **Every rule of the grammar keeps what is promised of its phrase.** -/
theorem bodyOf_spelt {e : Setting} (he : e.Keeps Phrase.spelt) (i : Nat) (p : Phrase) :
    (bodyOf p).Gives Phrase.spelt e i (Phrase.spelt e.list.tokens p · i ·) := by
  have hblock (j : Nat) := Gives.phrase (i := j) he .block
  have helif (j : Nat) := Gives.phrase (i := j) he .elifBranch
  cases p
  case block => exact blockBody_throughout he hblock helif (simpleStatements_spelt he)
  case elifBranch => exact branch_throughout he hblock helif "elif"
  case expression => exact ReadsSpelt.gives (p := expressionBody) he i
  case starExpression => exact ReadsSpelt.gives (p := starExpressionBody) he i
  case disjunction => exact ReadsSpelt.gives (p := logicBody _ _ _) he i
  case conjunction => exact ReadsSpelt.gives (p := logicBody _ _ _) he i
  case inversion => exact ReadsSpelt.gives (p := inversionBody) he i
  case bitOr => exact ReadsSpelt.gives (p := bitOrBody) he i
  case bitXor => exact ReadsSpelt.gives (p := bitXorBody) he i
  case bitAnd => exact ReadsSpelt.gives (p := bitAndBody) he i
  case shift => exact ReadsSpelt.gives (p := shiftBody) he i
  case sum => exact ReadsSpelt.gives (p := sumBody) he i
  case product => exact ReadsSpelt.gives (p := productBody) he i
  case factor => exact ReadsSpelt.gives (p := factorBody) he i
  case awaited => exact ReadsSpelt.gives (p := awaitedBody) he i
  case primary => exact ReadsSpelt.gives (p := primaryBody) he i
  case strings => exact ReadsSpelt.gives (p := stringsBody) he i
  case simpleStatement => exact ReadsSpelt.gives (p := simpleStatementBody) he i
  all_goals
    unfold bodyOf
    exact Forward.gives he i

/-- The type of a statement is written as something, if it has one. -/
def Stmt.TypeHasText : Stmt → Prop
  | .annotate _ _ type _ => Yields type.text (· ≠ "")
  | _ => True

/-- The types of all statements, however deep, are written as something. -/
def TypesHaveText (tree : List Stmt) : Prop := Throughout Stmt.TypeHasText tree

theorem text_ne_empty_of_name {cs : List Char} {t : Token} (ht : t ∈ (tokenize 1 cs).tokens)
    (hkind : t.kind = .name) : t.text ≠ "" := by
  refine ((tokenize_cut 1 cs).text_ne_iff (Array.mem_toList_iff.2 ht)).2 ?_
  rw [hkind]
  rfl

/-- **The types that are written in a text have a text themselves.** -/
theorem typesHaveText_of_parse {text : String} {tree : List Stmt} (h : Module.parse text = .ok tree) :
    TypesHaveText tree := by
  obtain ⟨-, hspelt⟩ := parse_gives (P := fun ss _ =>
    Throughout (Stmt.Spelt (tokenize 1 (closeLastLine text.toList)).tokens) ss) bodyOf_spelt
    (fun {e} hlist he => by
      rw [← hlist]
      exact file_throughout he (fun _ => .phrase he .block) (fun _ => .phrase he .elifBranch)
        (simpleStatements_spelt he)) h
  intro s hs
  have hs := hspelt s hs
  cases s with
  | annotate span target type value =>
    exact Expr.text_ne_empty (fun t => text_ne_empty_of_name) hs
  | _ => trivial

end Code
end RecordLens
