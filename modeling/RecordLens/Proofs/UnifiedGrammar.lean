import RecordLens.Code.Parse
import RecordLens.Proofs.TokenPlaces
import RecordLens.Proofs.UnifiedReading
/-!
The readers of the grammar give what is written without carriage returns: each is put together from
readers that do. A reader that serves only one other is opened there.

* `bodyOf_unified`: every rule of the grammar.
* `unified_of_mem_tokens`: the tokens of a text.
* `unified_of_parse`: the statements of a text.
-/
namespace RecordLens.Code

open Reading
open Shows (Unified)

namespace Grammar

open Reads

variable {P : Prop} {α : Type} [Shows α]

-- some rules of the grammar have more alternatives than the default allows for
set_option synthInstance.maxSize 1000

/-! ## Tokens -/

instance (text : String) : Reads P (markToken text) := by unfold markToken; infer_instance
instance (text : String) : Reads P (wordToken text) := by unfold wordToken; infer_instance
instance (kind : TokenKind) : Reads P (kindToken kind) := by unfold kindToken; infer_instance
instance : Reads P nameToken := by unfold nameToken; infer_instance
instance : Reads P ident := by unfold ident; infer_instance
instance : Reads P name := by unfold name; infer_instance

instance {p : Reading α} [Reads P p] : Reads P (commaSeparated p) := by
  unfold commaSeparated
  infer_instance

instance {p : Reading α} [∀ P, Reads P p] : Reads P (commaList p) := by
  unfold commaList
  infer_instance

/-! ## Phrases -/

instance : Reads P expression := phrase .expression
instance : Reads P starExpression := phrase .starExpression
instance : Reads P disjunction := phrase .disjunction
instance : Reads P conjunction := phrase .conjunction
instance : Reads P inversion := phrase .inversion
instance : Reads P bitOr := phrase .bitOr
instance : Reads P bitXor := phrase .bitXor
instance : Reads P bitAnd := phrase .bitAnd
instance : Reads P shift := phrase .shift
instance : Reads P sum := phrase .sum
instance : Reads P product := phrase .product
instance : Reads P factor := phrase .factor
instance : Reads P awaited := phrase .awaited
instance : Reads P primary := phrase .primary
instance : Reads P strings := phrase .strings
instance : Reads P arguments := phrase .arguments
instance : Reads P target := phrase .target
instance : Reads P targetAtom := phrase .targetAtom
instance : Reads P targetPrimary := phrase .targetPrimary
instance : Reads P deleted := phrase .deleted
instance : Reads P singleTarget := phrase .singleTarget
instance : Reads P annotationTarget := phrase .annotationTarget
instance : Reads P dottedName := phrase .dottedName
instance : Reads P simpleStatement := phrase .simpleStatement
instance : Reads P block := phrase .block
instance : Reads P elifBranch := phrase .elifBranch

/-! ## Lists of expressions and targets -/

instance {p : Reading Expr} [∀ P, Reads P p] : Reads P (tupleOr p) := by
  unfold tupleOr
  infer_instance

instance : Reads P starExpressions := by unfold starExpressions; infer_instance
instance : Reads P assignmentExpression := by unfold assignmentExpression; infer_instance
instance : Reads P namedExpression := by unfold namedExpression; infer_instance
instance : Reads P plainExpression := by unfold plainExpression; infer_instance
instance : Reads P starNamedExpression := by unfold starNamedExpression; infer_instance
instance : Reads P starNamedExpressions := by unfold starNamedExpressions; infer_instance
instance : Reads P starredExpression := by unfold starredExpression; infer_instance
instance : Reads P yieldExpression := by unfold yieldExpression; infer_instance
instance : Reads P starTargets := by unfold starTargets; infer_instance
instance : Reads P clauseHead := by unfold clauseHead; infer_instance
instance : Reads P forClauses := by unfold forClauses forClause clauseTail; infer_instance

/-! ## Arguments -/

instance : Forward Phrase.unified argumentsTrap := by
  have hseveral : ∀ a : Arguments, Forward Phrase.unified (match a.args with
      | [] | [_] => (absent : Reading Unit)
      | args => refuseAt ((args.getLast?.map Expr.line).getD a.line)) := by
    intro a
    split <;> infer_instance
  unfold argumentsTrap
  infer_instance

instance : Reads P lateArguments := by
  unfold lateArguments namedOrStarred namedOrUnpacked namedArgument keywordTrap
  infer_instance

instance : Reads P argumentList := by unfold argumentList earlyArgument; infer_instance
instance : Reads P argumentsBody := by unfold argumentsBody; infer_instance

/-! ## Brackets -/

theorem comprehension_reads (opening closing : String) {item : Reading Expr} [∀ P, Reads P item]
    {build : Span → Expr → List Clause → Expr}
    (hbuild : ∀ s x cs, Unified x → Unified cs → Unified (build s x cs)) :
    Reads P (comprehension opening closing item build) := by
  -- what `build` makes is known only here, as an instance for the search below
  have (P : Prop) (x : Expr) (cs : List Clause) [hx : Entails P (Unified x)]
      [hcs : Entails P (Unified cs)] : Entails P (Unified fun s => build s x cs) :=
    ⟨fun hP s => hbuild s x cs (hx.holds hP) (hcs.holds hP)⟩
  unfold comprehension comprehensionTrap
  infer_instance

instance : Reads P generator := comprehension_reads _ _ fun _ _ _ => .generator
instance : Reads P listComprehension := comprehension_reads _ _ fun _ _ _ => .listOf
instance : Reads P setComprehension := comprehension_reads _ _ fun _ _ _ => .setOf
instance : Reads P keyValue := by unfold keyValue; infer_instance
instance : Reads P dictItem := by unfold dictItem; infer_instance
instance : Reads P list := by unfold list; infer_instance
instance : Reads P tuple := by unfold tuple; infer_instance
instance : Reads P slices := by unfold slices slice; infer_instance

instance unifiedStrings (joined : Joined) (isBytes marked : Bool) :
    Entails P (Unified fun s =>
      if joined.formatted then Expr.formatted s (joinText joined.pieces)
      else if isBytes then .literal s (.bytes joined.bytes)
      else match joinText joined.pieces with
        | .text ps :: _ => .literal s (.text ps marked)
        | _ => .literal s (.text [] marked)) := by
  refine ⟨fun _ s => ?_⟩
  show Unified (ite _ _ _)
  split
  · exact .formatted _
  split
  · exact .literal _
  split <;> exact .literal _

instance : Reads P stringsBody := by unfold stringsBody; infer_instance

instance : Reads P number := by
  have hvalue : ∀ (t : Token) (P : Prop), Reads P (match numberValue t.text with
      | some value => (return .literal t.span value : Reading Expr)
      | none => refuseAt t.span.line) := by
    intro t P
    split <;> infer_instance
  unfold number
  infer_instance

instance : Reads P set := by unfold set; infer_instance
instance : Reads P dict := by unfold dict dictItemsTrap keyValueTrap; infer_instance

instance : Reads P dictComprehension := by
  unfold dictComprehension dictComprehensionTrap
  infer_instance

instance : Reads P group := by unfold group groupTrap; infer_instance
instance : Reads P atom := by unfold atom constant; infer_instance

/-! ## Parameters -/

section
variable (style : ListStyle)

instance : Reads P style.param := by
  cases style <;> (unfold ListStyle.param; infer_instance)

instance : Reads P (paramPlain style) := by unfold paramPlain; infer_instance
instance : Reads P defaultValue := by unfold defaultValue defaultTrap; infer_instance
instance : Reads P (paramDefaulted style) := by unfold paramDefaulted; infer_instance
instance : Reads P (paramMaybe style) := by unfold paramMaybe; infer_instance

instance : Reads P (paramStarAnnotated style) := by
  cases style <;> (unfold paramStarAnnotated paramEnd; infer_instance)

instance : Reads P (slashPlain style) := by unfold slashPlain; infer_instance
instance : Reads P (slashDefaulted style) := by unfold slashDefaulted; infer_instance

instance : Reads P (keywordsParam style) := by
  unfold keywordsParam keywordsTrap
  infer_instance

instance : Reads P (starPart style) := by unfold starPart; infer_instance
instance : Reads P (params style) := by unfold params; infer_instance

end

/-! ## Operators -/

instance : Reads P choice := by unfold choice; infer_instance
instance : Reads P lambda := by unfold lambda; infer_instance
instance : Reads P expressionBody := by unfold expressionBody oldCommandTrap; infer_instance
instance : Reads P starExpressionBody := by unfold starExpressionBody; infer_instance

instance (operator : String) (op : LogicOp) {operand : Reading Expr} [∀ P, Reads P operand] :
    Reads P (logicBody operator op operand) := by
  unfold logicBody
  infer_instance

instance : Reads P inversionBody := by unfold inversionBody comparison; infer_instance

instance {left right : Reading Expr} (operator : String) (op : BinaryOp) [∀ P, Reads P left]
    [∀ P, Reads P right] : Reads P (binary left right operator op) := by
  unfold binary
  infer_instance

instance : Reads P bitOrBody := by unfold bitOrBody; infer_instance
instance : Reads P bitXorBody := by unfold bitXorBody; infer_instance
instance : Reads P bitAndBody := by unfold bitAndBody; infer_instance
instance : Reads P shiftBody := by unfold shiftBody; infer_instance
instance : Reads P sumBody := by unfold sumBody; infer_instance
instance : Reads P productBody := by unfold productBody; infer_instance
instance : Reads P factorBody := by unfold factorBody signed; infer_instance
instance : Reads P awaitedBody := by unfold awaitedBody; infer_instance
instance : Reads P primaryBody := by unfold primaryBody; infer_instance

/-! ## Targets -/

instance {p : Reading Expr} {after : Reading Unit} [∀ P, Reads P p] [Forward Phrase.unified after] :
    Reads P (attributeOf p after) := by
  unfold attributeOf
  infer_instance

instance {p : Reading Expr} {after : Reading Unit} [∀ P, Reads P p] [Forward Phrase.unified after] :
    Reads P (subscriptOf p after) := by
  unfold subscriptOf
  infer_instance

instance : Reads P targetPrimaryBody := by unfold targetPrimaryBody; infer_instance
instance : Reads P memberTarget := by unfold memberTarget; infer_instance
instance : Reads P targetBody := by unfold targetBody; infer_instance
instance : Reads P targetAtomBody := by unfold targetAtomBody tupleTargets; infer_instance
instance : Reads P singleTargetBody := by unfold singleTargetBody; infer_instance
instance : Reads P deletedBody := by unfold deletedBody; infer_instance
instance : Reads P annotationTargetBody := by unfold annotationTargetBody; infer_instance

/-! ## Simple statements -/

instance : Reads P assignedValue := by unfold assignedValue; infer_instance
instance : Reads P typeAndValue := by unfold typeAndValue; infer_instance
instance : Reads P assignmentChain := by unfold assignmentChain; infer_instance
instance : Reads P dottedNameBody := by unfold dottedNameBody; infer_instance
instance : Reads P assignment := by unfold assignment; infer_instance
instance : Reads P importModules := by unfold importModules; infer_instance
instance : Reads P importFrom := by unfold importFrom; infer_instance

instance {p : Reading Unit} [Forward Phrase.unified p] : Reads P (plain p) := by
  unfold plain
  infer_instance

instance : Reads P simpleStatementBody := by
  unfold simpleStatementBody raiseStatement delete
  infer_instance

instance : Reads P simpleStatements := by unfold simpleStatements; infer_instance

/-! ## Statements with statements inside them -/

instance : Reads P optionalElse := by unfold optionalElse elseBlock elseTrap; infer_instance
instance (keyword : String) : Reads P (branch keyword) := by unfold branch; infer_instance
instance : Reads P whileStatement := by unfold whileStatement; infer_instance
instance : Reads P forStatement := by unfold forStatement forTail; infer_instance
instance : Reads P withStatement := by unfold withStatement withForm; infer_instance
instance : Reads P exceptBlock := by unfold exceptBlock exceptIndentTrap; infer_instance

instance : Reads P exceptStarBlock := by
  unfold exceptStarBlock exceptStarHead
  infer_instance

instance : Reads P finallyBlock := by unfold finallyBlock; infer_instance
instance : Reads P tryHead := by unfold tryHead; infer_instance
instance : Reads P tryStatement := by unfold tryStatement tryWith; infer_instance
instance : Reads P caseBlock := by unfold caseBlock caseHead guard; infer_instance
instance : Reads P matchStatement := by unfold matchStatement; infer_instance

/-! ## Definitions -/

instance : Reads P decorators := by unfold decorators; infer_instance

instance (isAsync : Bool) (ds : List Expr) {start : Reading Unit} [Forward Phrase.unified start] :
    Reads P (functionForm isAsync ds start) := by
  unfold functionForm
  infer_instance

instance (ds : List Expr) : Reads P (functionHead ds) := by unfold functionHead; infer_instance

instance : Reads P classHead := by
  have hbases : ∀ (P : Prop) (args : Option (Option Arguments)) [Entails P (Unified args)],
      Entails P (Unified (match args with
        | some (some a) => a.args
        | _ => [] : List Expr)) := by
    refine fun P args _ => ⟨fun hP => ?_⟩
    have hargs := Entails.holds hP (Q := Unified args)
    split
    · exact (hargs _ rfl _ rfl).1
    · exact nofun
  unfold classHead
  infer_instance

instance (ds : List Expr) : Reads P (classTail ds) := by unfold classTail; infer_instance

/-! ## All statements -/

instance : Reads P compoundStatement := by
  unfold compoundStatement functionDef classDef
  infer_instance

instance : Reads P statements := by unfold statements statement; infer_instance
instance : Reads P blockBody := by unfold blockBody; infer_instance
instance : Reads P file := by unfold file; infer_instance

end Grammar

/-! ## Whole texts -/

theorem bodyOf_reads {P : Prop} (p : Phrase) : @Reads P _ (showsResult p) (bodyOf p) := by
  cases p
  case elifBranch => exact inferInstanceAs (Reads P (Grammar.branch "elif"))
  all_goals
    unfold bodyOf
    infer_instance

/-- **Every rule of the grammar** gives what is written without carriage returns, if phrases do. -/
theorem bodyOf_unified {e : Setting} (he : e.Keeps Phrase.unified) (i : Nat) (p : Phrase) :
    (bodyOf p).Gives Phrase.unified e i (Phrase.unified e.list.tokens p · i ·) :=
  ((bodyOf_reads p).gives he i).mono fun _ _ _ ha htokens => ha htokens trivial

/-- What a token is made of stands in the text, so it holds a carriage return only if the text does. -/
theorem unified_of_mem_tokens {line : Nat} {text : List Char} (h : '\r' ∉ text) {t : Token}
    (ht : t ∈ (tokenize line text).tokens) : Text.Unified t.text := by
  by_cases htext : t.text = ""
  · rw [htext]
    decide
  · obtain ⟨before, after, hrest, -⟩ :=
      (tokenize_cut line text).stands (Array.mem_toList_iff.2 ht) htext
    refine fun hreturn => h ?_
    rw [show text = before ++ (t.text.toList ++ after) from hrest]
    exact List.mem_append_right _ (List.mem_append_left _ hreturn)

/-- **What declarations are written with in the statements of a text** holds no carriage return,
    whatever the line ends of the text are. -/
theorem unified_of_parse {text : String} {tree : List Stmt} (h : Module.parse text = .ok tree) :
    ∀ s ∈ tree, s.Unified := by
  have hfile : ∀ {e : Setting}, e.list = tokenize 1 (closeLastLine text.toList) →
      e.Keeps Phrase.unified → Grammar.file.Gives Phrase.unified e 0 fun ss _ => Unified ss := by
    intro e hlist he
    -- nothing has been read before the first statement, so nothing is known but the tokens
    refine (Reads.gives he 0).mono fun _ _ _ hss => hss (fun t ht => ?_) trivial
    rw [hlist] at ht
    exact unified_of_mem_tokens (Text.not_return_mem_closeLastLine _) ht
  obtain ⟨_, htree⟩ := parse_gives bodyOf_unified hfile h
  exact htree

end RecordLens.Code
