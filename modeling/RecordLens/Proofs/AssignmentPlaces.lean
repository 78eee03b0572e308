import RecordLens.Proofs.StatementParts
import RecordLens.Proofs.ValuePlaces
/-!
Where assignments stand. The targets and the value of every assignment of a text, however deep in its
statements, go from a token with text to one: an assignment ends before the end of its line, so there is
a last token before that.

* `Settled`: statements whose assignments stand so.
* `bodyOf_settles`: every rule of the grammar keeps what is promised of its phrase.
* `settled_of_parse`: the statements of a text.
-/
namespace RecordLens.Code

open Reading

/-! ## Assignments of statements -/

theorem mem_assigned {x : Expr} {ss : List Stmt} : x ∈ assigned ss ↔ ∃ s ∈ ss, x ∈ assignedIn s := by
  induction ss with
  | nil => exact iff_of_false List.not_mem_nil (by rintro ⟨s, hs, -⟩; exact absurd hs List.not_mem_nil)
  | cons s ss ih => rw [assigned, List.mem_append, ih, List.exists_mem_cons_iff]

section
variable (tokens : Array Token)

/-- The targets and the values of the assignments in statements go from a token with text to one. -/
def Settled (ss : List Stmt) : Prop := ∀ x ∈ assigned ss, Anchored tokens x.span

/-- The same of one statement. -/
def SettledIn (s : Stmt) : Prop := ∀ x ∈ assignedIn s, Anchored tokens x.span

end

mutual

theorem assignedIn_eq : ∀ s : Stmt, assignedIn s = (simplesIn s).flatMap assignedIn
  | .classDef _ _ _ _ body | .functionDef _ _ _ _ _ body | .compound _ body => assigned_eq body
  | .assign _ _ _ | .annotate _ _ _ _ | .importModules _ _ | .importFrom _ _ _ _ | .evaluate _ _
  | .simple _ => (List.flatMap_singleton _ _).symm

theorem assigned_eq : ∀ ss : List Stmt, assigned ss = (simples ss).flatMap assignedIn
  | [] => rfl
  | s :: ss => by
    rw [assigned, simples, List.flatMap_append, ← assignedIn_eq s, ← assigned_eq ss]

end

variable {tokens : Array Token} {ss : List Stmt} {s : Stmt}

theorem settled_iff : Settled tokens ss ↔ Throughout (SettledIn tokens) ss := by
  rw [Settled, assigned_eq, List.forall_mem_flatMap]
  rfl

theorem settledIn_iff : SettledIn tokens s ↔ ThroughoutIn (SettledIn tokens) s := by
  rw [SettledIn, assignedIn_eq, List.forall_mem_flatMap]
  rfl

theorem covers_of_assigns_nothing (h : assignedIn s = []) {j : Nat} :
    ∀ x ∈ assignedIn s, Covers tokens x.span j := by
  rw [h]
  nofun

/-! ## Readers that build statements -/

variable {α : Type} {e : Setting} {i : Nat}

/-- A reader of what makes a statement out of the stretch of code it takes up, one with statements inside
    it or a simple one. -/
class BuildsStmt (simple : Bool) (p : Reading (Span → Stmt)) : Prop where
  gives : ∀ {e : Setting}, e.Keeps Phrase.stands → ∀ i,
    p.Gives Phrase.stands e i fun build _ => ∀ s, (build s).isSimple = simple ∧ (build s).span = s

namespace BuildsStmt

theorem pure {simple : Bool} {build : Span → Stmt}
    (h : ∀ s, (build s).isSimple = simple ∧ (build s).span = s) :
    BuildsStmt simple (Pure.pure build : Reading (Span → Stmt)) :=
  ⟨fun _ _ => .pure h⟩

instance {simple : Bool} {p : Reading α} {f : α → Reading (Span → Stmt)}
    [hp : Forward Phrase.stands p] [hf : ∀ a, BuildsStmt simple (f a)] :
    BuildsStmt simple (p >>= f) :=
  ⟨fun he _ => .past he fun a j _ => (hf a).gives he j⟩

section
variable (x y : Expr) (xs : List Expr) (o : Option Expr) (names : List Alias) (ss : List Stmt)

instance : BuildsStmt true (Pure.pure fun s => .annotate s x y o) := pure fun _ => ⟨rfl, rfl⟩
instance : BuildsStmt true (Pure.pure fun s => .assign s xs x) := pure fun _ => ⟨rfl, rfl⟩
instance : BuildsStmt true (Pure.pure fun s => .evaluate s x) := pure fun _ => ⟨rfl, rfl⟩
instance : BuildsStmt true (Pure.pure .simple) := pure fun _ => ⟨rfl, rfl⟩
instance : BuildsStmt true (Pure.pure fun s => .importModules s names) := pure fun _ => ⟨rfl, rfl⟩

instance (level : Nat) (module : Option String) :
    BuildsStmt true (Pure.pure fun s => .importFrom s level module names) := pure fun _ => ⟨rfl, rfl⟩

instance : BuildsStmt false (Pure.pure fun s => .compound s ss) := pure fun _ => ⟨rfl, rfl⟩

instance (isAsync : Bool) (name : String) (ps : Params) :
    BuildsStmt false (Pure.pure fun s => .functionDef s isAsync name xs ps ss) :=
  pure fun _ => ⟨rfl, rfl⟩

instance (name : String) (bases : List Expr) :
    BuildsStmt false (Pure.pure fun s => .classDef s name xs bases ss) := pure fun _ => ⟨rfl, rfl⟩

end
end BuildsStmt

theorem simple_gives (he : e.Keeps Phrase.stands) {p : Reading (Span → Stmt)} [Solid p]
    [hp : BuildsStmt true p] : (spanned p).Gives Phrase.stands e i (SimpleAt e.list.tokens i) := by
  refine .spanned fun first hfirst => ?_
  refine ((Solid.gives he i).and (hp.gives he i)).mono fun build j _ ⟨hsolid, hbuild⟩ => ?_
  obtain ⟨⟨t, ht, hedge⟩, hij⟩ := hsolid
  obtain rfl := Option.some.inj (hfirst.symm.trans ht)
  exact ⟨(hbuild _).1, hij, first, hfirst, hedge, (hbuild _).2⟩

/-! ## Rules -/

namespace Grammar

section
variable (he : e.Keeps Phrase.stands)
include he

theorem assignmentChain_settles : assignmentChain.Gives Phrase.stands e i
    fun ts j => ∀ t ∈ ts, Covers e.list.tokens t.span j :=
  .many1_all (fun _ _ _ hjk h => h.to_le hjk) fun _ _ =>
    (behind_gives he (starTargets_gives he)).mono fun _ _ _ h => h.covers

theorem assignment_settles : assignment.Gives Phrase.stands e i
    fun s j => ∀ x ∈ assignedIn s, Covers e.list.tokens x.span j := by
  unfold assignment
  refine .orElse (.spanned fun _ _ => ?_) (.orElse (.spanned fun _ _ => ?_)
    (.orElse (.spanned fun _ _ => ?_) ?_))
  · exact .past he fun _ _ _ => .past he fun _ _ _ => .pure (covers_of_assigns_nothing rfl)
  · exact .past he fun _ _ _ => .past he fun _ _ _ => .pure (covers_of_assigns_nothing rfl)
  -- of the four forms only the chain of targets makes an assignment
  · refine (assignmentChain_settles he).bind fun ts j _ hts => ?_
    refine .bind (.orElse (yieldExpression_gives he) (starExpressions_gives he)) fun v k hjk hv => ?_
    refine .past he fun _ l hkl => .pure fun x hx => ?_
    rcases List.mem_append.1 hx with hx | hx
    · exact (hts x hx).to_le (Nat.le_trans hjk hkl)
    · obtain rfl := List.mem_singleton.1 hx
      exact hv.covers.to_le hkl
  · refine .commit (Forward.gives he i) (fun _ j _ _ => ?_) (.trap (Forward.gives he i))
    exact .past he fun _ k _ n hn => ⟨hn, Nat.le_refl k, covers_of_assigns_nothing rfl⟩

theorem simpleStatementBody_settles : simpleStatementBody.Gives Phrase.stands e i
    fun s j => ∀ x ∈ assignedIn s, Covers e.list.tokens x.span j := by
  have hplain {p : Reading Unit} [Forward Phrase.stands p] (j : Nat) : (plain p).Gives
      Phrase.stands e j fun s j => ∀ x ∈ assignedIn s, Covers e.list.tokens x.span j :=
    .spanned fun _ _ => .past he fun _ _ _ => .pure (covers_of_assigns_nothing rfl)
  unfold simpleStatementBody
  refine .orElse (assignment_settles he) (.orElse (.spanned fun _ _ => ?_) (.orElse ?_ (.orElse ?_
    (.orElse ?_ (.orElse (hplain i) (.orElse ?_ (.orElse ?_ (.orElse ?_ (.orElse (hplain i)
    (.orElse (hplain i) (.orElse ?_ ?_)))))))))))
  · exact .past he fun _ _ _ => .pure (covers_of_assigns_nothing rfl)
  · exact .past he fun _ j _ => hplain j
  · refine .past he fun _ j _ => .orElse (.spanned fun _ _ => ?_)
      (.orElse (.spanned fun _ _ => ?_) (.spanned fun _ _ => ?_))
    · exact .past he fun _ _ _ => .past he fun _ _ _ => .pure (covers_of_assigns_nothing rfl)
    · exact .past he fun _ _ _ => .past he fun _ _ _ => .past he fun _ _ _ => .past he fun _ _ _ =>
        .past he fun _ _ _ => .pure (covers_of_assigns_nothing rfl)
    · exact .past he fun _ _ _ => .past he fun _ _ _ => .past he fun _ _ _ => .past he fun _ _ _ =>
        .pure (covers_of_assigns_nothing rfl)
  · exact .past he fun _ j _ => .orElse (hplain j) (hplain j)
  · exact .past he fun _ j _ => .orElse (hplain j) (.trap (Forward.gives he j))
  · exact .past he fun _ _ _ => .spanned fun _ _ => .past he fun _ _ _ =>
      .pure (covers_of_assigns_nothing rfl)
  · exact .past he fun _ j _ => hplain j
  · exact .past he fun _ j _ => hplain j
  · exact .past he fun _ j _ => hplain j

/-! ## Simple statements -/

instance : Solid starExpressions :=
  ⟨fun he _ => (starExpressions_gives he).mono fun _ _ _ h => h.solid⟩

instance : Solid yieldExpression :=
  ⟨fun he _ => (yieldExpression_gives he).mono fun _ _ _ h => h.solid⟩

instance : Solid starTargets := ⟨fun he _ => (starTargets_gives he).mono fun _ _ _ h => h.solid⟩

instance : Solid memberTarget := ⟨fun he _ => (memberTarget_gives he).mono fun _ _ _ h => h.solid⟩

instance : Solid assignmentChain := by unfold assignmentChain; infer_instance

theorem assignment_stands : assignment.Gives Phrase.stands e i (SimpleAt e.list.tokens i) := by
  unfold assignment
  refine .orElse (simple_gives he) (.orElse (simple_gives he) (.orElse (simple_gives he) ?_))
  -- an augmented assignment begins where its target does
  have hfirst : peek.Gives Phrase.stands e i fun t j => e.list.tokens[i]? = some t ∧ j = i :=
    .peek fun _ ht => ⟨ht, rfl⟩
  refine .commit (P := fun first j => e.list.tokens[i]? = some first ∧ SolidFrom e.list.tokens i j)
    (hfirst.bind ?_) (fun first j _ ⟨ht, hsolid⟩ => ?_) (.trap (Forward.gives he i))
  · rintro first _ - ⟨ht, rfl⟩
    refine (Gives.phrase he .singleTarget).bind fun x j _ hx => .past he fun _ k hjk => .pure ?_
    exact ⟨ht, (Stands.to_le hx hjk).solid⟩
  · obtain ⟨⟨t, ht', hedge⟩, hij⟩ := hsolid
    obtain rfl := Option.some.inj (ht.symm.trans ht')
    exact .past he fun _ k hjk n hn =>
      ⟨hn, Nat.le_refl k, rfl, Nat.lt_of_lt_of_le hij hjk, first, ht, hedge, rfl⟩

theorem simpleStatementBody_stands :
    simpleStatementBody.Gives Phrase.stands e i (SimpleAt e.list.tokens i) := by
  have hplain {p : Reading Unit} [Solid p] [Forward Phrase.stands p] :
      (plain p).Gives Phrase.stands e i (SimpleAt e.list.tokens i) := by
    unfold plain
    exact simple_gives he
  unfold simpleStatementBody
  refine .orElse (assignment_stands he) (.orElse (simple_gives he) (.orElse (ahead_gives he hplain)
    (.orElse (ahead_gives he (.orElse (simple_gives he) ?_)) (.orElse (ahead_gives he ?_)
    (.orElse hplain (.orElse (ahead_gives he ?_) (.orElse (ahead_gives he (simple_gives he))
    (.orElse (ahead_gives he hplain) (.orElse hplain (.orElse hplain
    (.orElse (ahead_gives he hplain) (ahead_gives he hplain))))))))))))
  · exact .orElse (simple_gives he) (simple_gives he)
  · exact .orElse hplain hplain
  · exact .orElse hplain (.trap (Forward.gives he i))

theorem simpleStatements_settles :
    simpleStatements.Gives Phrase.stands e i fun ss _ => Settled e.list.tokens ss := by
  -- the end of the line is one more token, so what is covered before it has a last token
  have hend {ss : List Stmt} {j k : Nat} (hjk : j ≤ k)
      (hss : ∀ s ∈ ss, ∀ x ∈ assignedIn s, Covers e.list.tokens x.span j) :
      (do newline; return ss : Reading (List Stmt)).Gives Phrase.stands e k
        fun ss _ => Settled e.list.tokens ss := by
    refine .bind (kind_gives .newline) fun _ _ _ ⟨_, hnewline⟩ => .pure fun x hx => ?_
    obtain ⟨s, hs, hx⟩ := mem_assigned.1 hx
    exact (hss s hs x hx).anchored (Nat.le_trans hjk (Nat.le_of_lt (lt_size_of_token hnewline)))
  have hsimple (j : Nat) : simpleStatement.Gives Phrase.stands e j
      fun s j => ∀ x ∈ assignedIn s, Covers e.list.tokens x.span j :=
    (Gives.phrase he .simpleStatement).mono fun _ _ _ h => h.2
  have hlater (s : Stmt) (j k : Nat) (hjk : j ≤ k)
      (h : ∀ x ∈ assignedIn s, Covers e.list.tokens x.span j) :
      ∀ x ∈ assignedIn s, Covers e.list.tokens x.span k :=
    fun x hx => (h x hx).to_le hjk
  unfold simpleStatements
  refine .orElse ((hsimple i).bind fun s j _ hs => .past he fun _ k hjk => hend hjk ?_) ?_
  · exact List.forall_mem_singleton.2 hs
  · refine .bind (.separated_all hlater (fun j _ => Forward.gives he j) fun j _ => hsimple j) ?_
    exact fun ss j _ hss => .past he fun _ k hjk => hend hjk hss

/-! ## Statements with statements inside them -/

theorem block_settles (i : Nat) :
    block.Gives Phrase.stands e i fun ss _ => Throughout (SettledIn e.list.tokens) ss :=
  (Gives.phrase he .block).mono fun _ _ _ h => settled_iff.1 h

theorem elifBranch_settles (i : Nat) :
    elifBranch.Gives Phrase.stands e i fun s _ => ThroughoutIn (SettledIn e.list.tokens) s :=
  (Gives.phrase he .elifBranch).mono fun _ _ _ h => settledIn_iff.1 h

theorem branch_settles (keyword : String) :
    (branch keyword).Gives Phrase.stands e i fun s _ => SettledIn e.list.tokens s :=
  (branch_throughout he (block_settles he) (elifBranch_settles he) keyword).mono fun _ _ _ h =>
    settledIn_iff.2 h

theorem blockBody_settles :
    blockBody.Gives Phrase.stands e i fun ss _ => Settled e.list.tokens ss :=
  (blockBody_throughout he (block_settles he) (elifBranch_settles he) fun _ =>
    (simpleStatements_settles he).mono fun _ _ _ h => settled_iff.1 h).mono fun _ _ _ h =>
    settled_iff.2 h

theorem file_settles : file.Gives Phrase.stands e i fun ss _ => Settled e.list.tokens ss :=
  (file_throughout he (block_settles he) (elifBranch_settles he) fun _ =>
    (simpleStatements_settles he).mono fun _ _ _ h => settled_iff.1 h).mono fun _ _ _ h =>
    settled_iff.2 h

end
end Grammar

/-! ## Whole texts -/

/-- **Every rule of the grammar keeps what is promised of its phrase.** -/
theorem bodyOf_settles (he : e.Keeps Phrase.stands) (i : Nat) (p : Phrase) :
    (bodyOf p).Gives Phrase.stands e i (Phrase.stands e.list.tokens p · i ·) := by
  cases p
  case expression => exact Grammar.expressionBody_gives he
  case starExpression => exact Grammar.starExpressionBody_gives he
  case disjunction => exact Grammar.logicBody_gives he _ _ (.phrase he .conjunction)
  case conjunction => exact Grammar.logicBody_gives he _ _ (.phrase he .inversion)
  case inversion => exact Grammar.inversionBody_gives he
  case bitOr => exact .orElse (Grammar.binary_gives he _ _) (.phrase he .bitXor)
  case bitXor => exact .orElse (Grammar.binary_gives he _ _) (.phrase he .bitAnd)
  case bitAnd => exact .orElse (Grammar.binary_gives he _ _) (.phrase he .shift)
  case shift =>
    exact .orElse (Grammar.binary_gives he _ _) (.orElse (Grammar.binary_gives he _ _)
      (.phrase he .sum))
  case sum =>
    exact .orElse (Grammar.binary_gives he _ _) (.orElse (Grammar.binary_gives he _ _)
      (.phrase he .product))
  case product =>
    exact .orElse (Grammar.binary_gives he _ _) (.orElse (Grammar.binary_gives he _ _)
      (.orElse (Grammar.binary_gives he _ _) (.orElse (Grammar.binary_gives he _ _)
      (.orElse (Grammar.binary_gives he _ _) (.phrase he .factor)))))
  case factor => exact Grammar.factorBody_gives he
  case awaited => exact Grammar.awaitedBody_gives he
  case primary => exact Grammar.primaryBody_gives he
  case strings => exact Grammar.stringsBody_gives he
  case target => exact Grammar.targetBody_gives he
  case targetAtom => exact Grammar.targetAtomBody_gives he
  case targetPrimary => exact Grammar.targetPrimaryBody_gives he
  case deleted => exact Grammar.deletedBody_gives he
  case singleTarget => exact Grammar.singleTargetBody_gives he
  case annotationTarget => exact Grammar.annotationTargetBody_gives he
  case simpleStatement =>
    exact (Grammar.simpleStatementBody_stands he).and (Grammar.simpleStatementBody_settles he)
  case block => exact Grammar.blockBody_settles he
  case elifBranch => exact Grammar.branch_settles he "elif"
  all_goals
    unfold bodyOf
    exact Forward.gives he i

/-- **The assignments of a text stand among its tokens.** -/
theorem settled_of_parse {text : String} {tree : List Stmt} (h : Module.parse text = .ok tree) :
    Settled (tokenize 1 (closeLastLine text.toList)).tokens tree := by
  obtain ⟨-, hsettled⟩ := parse_gives (P := fun ss _ =>
    Settled (tokenize 1 (closeLastLine text.toList)).tokens ss) bodyOf_settles (fun {e} hlist he => by
      rw [← hlist]
      exact Grammar.file_settles he) h
  exact hsettled

end RecordLens.Code
