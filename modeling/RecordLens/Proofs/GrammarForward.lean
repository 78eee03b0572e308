import RecordLens.Code.Grammar.Statement
import RecordLens.Proofs.Forward
/-!
The readers of the grammar go forward, whatever is promised of phrases: each is put together from
readers that do. A reader that serves only one other is opened there. Readers of whole statements are
left out, since more than this is to be known of them.
-/
namespace RecordLens.Code.Grammar

open Reading

variable {α : Type} {promise : Phrase.Promise}

-- some rules of the grammar have more alternatives than the default allows for
set_option synthInstance.maxSize 1000

/-! ## Tokens -/

instance (text : String) : Forward promise (markToken text) := by unfold markToken; infer_instance
instance (text : String) : Forward promise (wordToken text) := by unfold wordToken; infer_instance

instance (kind : TokenKind) : Forward promise (kindToken kind) := by
  unfold kindToken
  infer_instance

instance (text : String) : Forward promise (mark text) := by unfold mark; infer_instance
instance (text : String) : Forward promise (word text) := by unfold word; infer_instance
instance (k : TokenKind) : Forward promise (kind k) := by unfold kind; infer_instance
instance : Forward promise newline := by unfold newline; infer_instance
instance : Forward promise nameToken := by unfold nameToken; infer_instance
instance : Forward promise ident := by unfold ident; infer_instance
instance : Forward promise name := by unfold name; infer_instance
instance : Forward promise nextLine := by unfold nextLine; infer_instance
instance : Forward promise comma := by unfold comma; infer_instance

instance {p : Reading Unit} [Forward promise p] : Forward promise (demand p) := by
  unfold demand
  infer_instance

instance {p : Reading α} [Forward promise p] : Forward promise (commaSeparated p) := by
  unfold commaSeparated
  infer_instance

instance {p : Reading α} [Forward promise p] : Forward promise (commaList p) := by
  unfold commaList
  infer_instance

/-! ## Phrases -/

instance : Forward promise expression := .phrase .expression
instance : Forward promise starExpression := .phrase .starExpression
instance : Forward promise disjunction := .phrase .disjunction
instance : Forward promise conjunction := .phrase .conjunction
instance : Forward promise inversion := .phrase .inversion
instance : Forward promise bitOr := .phrase .bitOr
instance : Forward promise bitXor := .phrase .bitXor
instance : Forward promise bitAnd := .phrase .bitAnd
instance : Forward promise shift := .phrase .shift
instance : Forward promise sum := .phrase .sum
instance : Forward promise product := .phrase .product
instance : Forward promise factor := .phrase .factor
instance : Forward promise awaited := .phrase .awaited
instance : Forward promise primary := .phrase .primary
instance : Forward promise strings := .phrase .strings
instance : Forward promise arguments := .phrase .arguments
instance : Forward promise target := .phrase .target
instance : Forward promise targetAtom := .phrase .targetAtom
instance : Forward promise targetPrimary := .phrase .targetPrimary
instance : Forward promise deleted := .phrase .deleted
instance : Forward promise singleTarget := .phrase .singleTarget
instance : Forward promise assignmentTrap := .phrase .assignmentTrap
instance : Forward promise annotationTarget := .phrase .annotationTarget
instance : Forward promise closedPattern := .phrase .closedPattern
instance : Forward promise starPattern := .phrase .starPattern
instance : Forward promise dottedPattern := .phrase .dottedPattern
instance : Forward promise dottedName := .phrase .dottedName
instance : Forward promise simpleStatement := .phrase .simpleStatement
instance : Forward promise block := .phrase .block
instance : Forward promise elifBranch := .phrase .elifBranch

/-! ## Lists of expressions and targets -/

instance {p : Reading Expr} [Forward promise p] : Forward promise (tupleOr p) := by
  unfold tupleOr
  infer_instance

instance : Forward promise starExpressions := by unfold starExpressions; infer_instance
instance : Forward promise expressions := by unfold expressions; infer_instance
instance : Forward promise assignmentExpression := by unfold assignmentExpression; infer_instance
instance : Forward promise namedExpression := by unfold namedExpression; infer_instance
instance : Forward promise plainExpression := by unfold plainExpression; infer_instance
instance : Forward promise starNamedExpression := by unfold starNamedExpression; infer_instance
instance : Forward promise starNamedExpressions := by unfold starNamedExpressions; infer_instance
instance : Forward promise starredExpression := by unfold starredExpression; infer_instance
instance : Forward promise yieldExpression := by unfold yieldExpression; infer_instance

instance (use : TargetUse) (e : Expr) : Forward promise (refuseUnfit use e) := by
  unfold refuseUnfit
  split <;> infer_instance

instance : Forward promise starTargets := by unfold starTargets; infer_instance
instance : Forward promise forTargetTrap := by unfold forTargetTrap; infer_instance
instance : Forward promise clauseHead := by unfold clauseHead; infer_instance
instance : Forward promise forClauses := by unfold forClauses forClause clauseTail; infer_instance

/-! ## Arguments -/

instance : Forward promise lateArguments := by
  unfold lateArguments namedOrStarred namedOrUnpacked namedArgument keywordTrap
  infer_instance

instance : Forward promise argumentList := by unfold argumentList earlyArgument; infer_instance

instance : Forward promise argumentsBody := by
  -- what is left of the trap for a comprehension once its arguments are known
  have hseveral : ∀ a : Arguments, Forward promise (match a.args with
      | [] | [_] => (absent : Reading Unit)
      | args => refuseAt ((args.getLast?.map Expr.line).getD a.line)) := by
    intro a
    split <;> infer_instance
  unfold argumentsBody argumentsTrap
  infer_instance

/-! ## Brackets -/

instance (opening closing : String) {item : Reading Expr} (build : Span → Expr → List Clause → Expr)
    [Forward promise item] : Forward promise (comprehension opening closing item build) := by
  unfold comprehension comprehensionTrap
  infer_instance

instance : Forward promise generator := by unfold generator; infer_instance
instance : Forward promise keyValue := by unfold keyValue; infer_instance
instance : Forward promise dictItem := by unfold dictItem; infer_instance
instance : Forward promise list := by unfold list; infer_instance
instance : Forward promise tuple := by unfold tuple; infer_instance
instance : Forward promise slices := by unfold slices slice; infer_instance

instance (isBytes : Bool) (joined : Joined) (t : Token) :
    Forward promise (joinToken isBytes joined t) := by
  refine ⟨fun _ i n hn => ?_⟩
  have hfound : ∀ j : Joined, (Outcome.found j i n).Within promise _ i fun _ _ => True :=
    fun _ => ⟨hn, Nat.le_refl i, trivial⟩
  -- each branch finds something without going on, or is a fault
  unfold joinToken
  dsimp only
  repeat' split
  all_goals first | exact hfound _ | trivial

instance (isBytes : Bool) (ts : List Token) (joined : Joined) :
    Forward promise (joinTokens isBytes ts joined) := by
  induction ts generalizing joined with
  | nil =>
    unfold joinTokens
    infer_instance
  | cons t ts ih =>
    unfold joinTokens
    infer_instance

instance : Forward promise stringsBody := by unfold stringsBody; infer_instance

instance : Forward promise number := by
  have hvalue : ∀ t : Token, Forward promise (match numberValue t.text with
      | some value => (return .literal t.span value : Reading Expr)
      | none => refuseAt t.span.line) := by
    intro t
    split <;> infer_instance
  unfold number
  infer_instance

instance : Forward promise dict := by unfold dict dictItemsTrap keyValueTrap; infer_instance

instance : Forward promise dictComprehension := by
  unfold dictComprehension dictComprehensionTrap
  infer_instance

instance : Forward promise atom := by
  unfold atom constant group groupTrap listComprehension set setComprehension
  infer_instance

/-! ## Parameters -/

section
variable (style : ListStyle)

instance : Forward promise style.closing := by
  cases style <;> (unfold ListStyle.closing; infer_instance)

instance : Forward promise style.param := by
  cases style <;> (unfold ListStyle.param; infer_instance)

instance : Forward promise (paramPlain style) := by unfold paramPlain; infer_instance
instance : Forward promise defaultValue := by unfold defaultValue defaultTrap; infer_instance
instance : Forward promise (paramDefaulted style) := by unfold paramDefaulted; infer_instance
instance : Forward promise (paramMaybe style) := by unfold paramMaybe; infer_instance

instance : Forward promise (paramStarAnnotated style) := by
  cases style <;> (unfold paramStarAnnotated paramEnd; infer_instance)

instance : Forward promise (slashPlain style) := by unfold slashPlain; infer_instance
instance : Forward promise (slashDefaulted style) := by unfold slashDefaulted; infer_instance

instance : Forward promise (keywordsParam style) := by
  unfold keywordsParam keywordsTrap
  infer_instance

instance : Forward promise (starTrap style) := by
  cases style <;> (unfold starTrap; infer_instance)

instance : Forward promise (starPart style) := by unfold starPart; infer_instance

instance : Forward promise (paramsTrap style) := by
  cases style <;> (unfold paramsTrap slashTrap; infer_instance)

instance : Forward promise (params style) := by unfold params; infer_instance

end

/-! ## Operators -/

instance : Forward promise choice := by unfold choice; infer_instance
instance : Forward promise lambda := by unfold lambda; infer_instance

instance : Forward promise expressionTrap := by
  unfold expressionTrap
  refine ⟨fun he i => .commit (Forward.gives he i) (fun a j _ _ n hn => ?_) (Forward.gives he i)⟩
  -- inside brackets the text is refused, and outside of them nothing is found
  show Outcome.Within _ _ _ _ (ite _ _ _)
  split
  · exact hn
  · trivial

instance : Forward promise expressionBody := by unfold expressionBody oldCommandTrap; infer_instance
instance : Forward promise starExpressionBody := by unfold starExpressionBody; infer_instance
instance : Forward promise assignmentTrapBody := by unfold assignmentTrapBody; infer_instance

instance (operator : String) (op : LogicOp) {operand : Reading Expr} [Forward promise operand] :
    Forward promise (logicBody operator op operand) := by
  unfold logicBody
  infer_instance

instance : Forward promise compareOp := by unfold compareOp; infer_instance

instance : Forward promise inversionBody := by
  unfold inversionBody comparison
  infer_instance

instance {left right : Reading Expr} (operator : String) (op : BinaryOp) [Forward promise left]
    [Forward promise right] : Forward promise (binary left right operator op) := by
  unfold binary
  infer_instance

instance : Forward promise bitOrBody := by unfold bitOrBody; infer_instance
instance : Forward promise bitXorBody := by unfold bitXorBody; infer_instance
instance : Forward promise bitAndBody := by unfold bitAndBody; infer_instance
instance : Forward promise shiftBody := by unfold shiftBody; infer_instance
instance : Forward promise sumBody := by unfold sumBody; infer_instance
instance : Forward promise productBody := by unfold productBody; infer_instance
instance : Forward promise factorBody := by unfold factorBody signed; infer_instance
instance : Forward promise awaitedBody := by unfold awaitedBody; infer_instance
instance : Forward promise primaryBody := by unfold primaryBody; infer_instance

/-! ## Patterns -/

instance {p : Reading α} [Forward promise p] : Forward promise (placed p) := by
  unfold placed
  infer_instance

instance (isImaginary : Bool) : Forward promise (numberOfKind isImaginary) := by
  have hkind : ∀ e : Expr, Forward promise (match e with
      | .literal s (.imaginary _) => if isImaginary then return () else refuseAt s.line
      | e => if isImaginary then refuseAt e.line else return () : Reading Unit) := by
    intro e
    split <;> infer_instance
  unfold numberOfKind
  infer_instance

instance : Forward promise literalPattern := by
  unfold literalPattern signedNumber complexNumber
  infer_instance

instance : Forward promise captureTarget := by unfold captureTarget; infer_instance
instance : Forward promise nameOrDotted := by unfold nameOrDotted; infer_instance
instance : Forward promise dottedPatternBody := by unfold dottedPatternBody; infer_instance
instance : Forward promise orPattern := by unfold orPattern; infer_instance
instance : Forward promise pattern := by unfold pattern asTrap; infer_instance
instance : Forward promise starPatternBody := by unfold starPatternBody; infer_instance
instance : Forward promise itemPattern := by unfold itemPattern; infer_instance
instance : Forward promise itemPatterns := by unfold itemPatterns; infer_instance
instance : Forward promise openSequence := by unfold openSequence; infer_instance

instance : Forward promise mappingPattern := by
  unfold mappingPattern restPattern pairPattern
  infer_instance

instance : Forward promise classPattern := by
  unfold classPattern classTrap positionalPatterns namedPatterns namedPattern
  infer_instance

instance : Forward promise closedPatternBody := by
  unfold closedPatternBody valuePattern groupPattern sequencePattern
  infer_instance

instance : Forward promise casePattern := by unfold casePattern; infer_instance

/-! ## Targets -/

instance : Forward promise goesOn := by unfold goesOn; infer_instance

instance {p : Reading Expr} {after : Reading Unit} [Forward promise p] [Forward promise after] :
    Forward promise (attributeOf p after) := by
  unfold attributeOf
  infer_instance

instance {p : Reading Expr} {after : Reading Unit} [Forward promise p] [Forward promise after] :
    Forward promise (subscriptOf p after) := by
  unfold subscriptOf
  infer_instance

instance : Forward promise targetPrimaryBody := by unfold targetPrimaryBody; infer_instance
instance : Forward promise memberTarget := by unfold memberTarget; infer_instance
instance : Forward promise targetBody := by unfold targetBody; infer_instance
instance : Forward promise targetAtomBody := by unfold targetAtomBody tupleTargets; infer_instance
instance : Forward promise singleTargetBody := by unfold singleTargetBody; infer_instance
instance : Forward promise deletedBody := by unfold deletedBody; infer_instance
instance : Forward promise annotationTargetBody := by unfold annotationTargetBody; infer_instance

/-! ## Parts of statements -/

instance : Forward promise assignedValue := by unfold assignedValue; infer_instance
instance : Forward promise augmentedMark := by unfold augmentedMark; infer_instance
instance : Forward promise typeAndValue := by unfold typeAndValue; infer_instance
instance : Forward promise assignmentChain := by unfold assignmentChain; infer_instance

instance : Forward promise assignmentStatementTrap := by
  unfold assignmentStatementTrap
  infer_instance

instance {p : Reading String} [Forward promise p] : Forward promise (aliasOf p) := by
  unfold aliasOf
  infer_instance

instance : Forward promise dottedNameBody := by unfold dottedNameBody; infer_instance
instance : Forward promise importedNames := by unfold importedNames; infer_instance

instance : Forward promise importTargets := by
  unfold importTargets importTargetsTrap
  infer_instance

instance : Forward promise dots := by unfold dots; infer_instance
instance : Forward promise colon := by unfold colon; infer_instance
instance : Forward promise blockMissing := by unfold blockMissing; infer_instance
instance : Forward promise colonMissing := by unfold colonMissing; infer_instance

instance {head : Reading Unit} [Forward promise head] : Forward promise (headTrap head) := by
  unfold headTrap
  infer_instance

instance {head : Reading Unit} [Forward promise head] : Forward promise (bareHeadTrap head) := by
  unfold bareHeadTrap
  infer_instance

instance : Forward promise optionalElse := by unfold optionalElse elseBlock elseTrap; infer_instance

instance (keyword : String) : Forward promise (conditionHead keyword) := by
  unfold conditionHead
  infer_instance

instance : Forward promise forHeadTrap := by unfold forHeadTrap; infer_instance

instance {tail : Reading Unit} [Forward promise tail] : Forward promise (withHeads tail) := by
  unfold withHeads asTarget
  infer_instance

instance : Forward promise withItem := by unfold withItem withItemTrap; infer_instance
instance : Forward promise withBracketed := by unfold withBracketed; infer_instance
instance : Forward promise withPlain := by unfold withPlain; infer_instance
instance : Forward promise exceptName := by unfold exceptName; infer_instance
instance : Forward promise exceptTrap := by unfold exceptTrap; infer_instance
instance : Forward promise exceptBlock := by unfold exceptBlock exceptIndentTrap; infer_instance

instance : Forward promise exceptStarBlock := by
  unfold exceptStarBlock exceptStarHead
  infer_instance

instance : Forward promise finallyBlock := by unfold finallyBlock; infer_instance
instance : Forward promise tryTrap := by unfold tryTrap; infer_instance
instance : Forward promise tryHead := by unfold tryHead; infer_instance
instance : Forward promise matchHead := by unfold matchHead subject; infer_instance
instance : Forward promise caseBlock := by unfold caseBlock caseHead guard; infer_instance
instance : Forward promise decorators := by unfold decorators; infer_instance
instance : Forward promise functionTrap := by unfold functionTrap; infer_instance
instance : Forward promise classHead := by unfold classHead; infer_instance
instance : Forward promise deletedTrap := by unfold deletedTrap; infer_instance

end RecordLens.Code.Grammar
