import RecordLens.Code.Grammar.Statement
import RecordLens.Code.Lexer
/-!
Reading a whole text of code. A text that cannot be read is read a second time with the readers that
explain faults; what they do not explain is refused at the furthest token of the first reading.

* `Module.parse`: the statements of a module.
* `Expr.parse`: a single expression.
-/
namespace RecordLens.Code

open Grammar

/-- How each phrase is read. -/
def bodyOf : (p : Phrase) → Reading p.Result
  | .expression => expressionBody
  | .starExpression => starExpressionBody
  | .disjunction => logicBody "or" .disj conjunction
  | .conjunction => logicBody "and" .conj inversion
  | .inversion => inversionBody
  | .bitOr => bitOrBody
  | .bitXor => bitXorBody
  | .bitAnd => bitAndBody
  | .shift => shiftBody
  | .sum => sumBody
  | .product => productBody
  | .factor => factorBody
  | .awaited => awaitedBody
  | .primary => primaryBody
  | .strings => stringsBody
  | .arguments => argumentsBody
  | .target => targetBody
  | .targetAtom => targetAtomBody
  | .targetPrimary => targetPrimaryBody
  | .deleted => deletedBody
  | .singleTarget => singleTargetBody
  | .assignmentTrap => assignmentTrapBody
  | .annotationTarget => annotationTargetBody
  | .closedPattern => closedPatternBody
  | .starPattern => starPatternBody
  | .dottedPattern => dottedPatternBody
  | .dottedName => dottedNameBody
  | .simpleStatement => simpleStatementBody
  | .block => blockBody
  | .elifBranch => elifBranchBody

/-- Read a phrase, going at most `fuel` phrases deep. -/
def readPhrase (list : TokenList) (readField : ReadField) :
    Nat → (p : Phrase) → Nat → Notes → Outcome p.Result
  | 0, _, _, n => .fault ⟨0⟩ n
  | fuel + 1, p, i, n =>
    (Reading.inMode p (bodyOf p)) ⟨list, readField, readPhrase list readField fuel⟩ i n

/-- Between two tokens no more phrases can be opened than this. -/
def phrasesPerToken : Nat := 40

/-- What reading finds at the start of a text. -/
def runReading {α : Type} (list : TokenList) (readField : ReadField) (p : Reading α)
    (reach : Nat) (traps : Bool) : Outcome α :=
  let fuel := phrasesPerToken * (list.tokens.size + 1)
  p ⟨list, readField, readPhrase list readField fuel⟩ 0
    ⟨reach, traps, Array.replicate list.tokens.size []⟩

/-- A fault gives way to a certain stop in the tokens behind it, and to a bracket that is open at the
    end of the tokens and begins on an earlier line. -/
def settleFault (list : TokenList) (n : Notes) (fault : Fault) : Fault :=
  if list.tokens.size < n.reach then fault
  else if list.stop.certain then ⟨list.stop.line⟩
  else match list.stop.openBracket with
    | some line => if line < Reading.Notes.line n list then ⟨line⟩ else fault
    | none => fault

/-- Read a list of tokens, and when that fails, find the fault. -/
def readTokens {α : Type} (list : TokenList) (readField : ReadField) (p : Reading α) :
    Except Fault α :=
  match runReading list readField p 0 false with
  | .found a _ _ => .ok a
  | .fault x n => .error (settleFault list n x)
  | .absent n =>
    let last := (list.tokens[n.reach - 1]?).getD default
    match runReading list readField p n.reach true with
    | .fault x n => .error (settleFault list n x)
    | .found _ _ m | .absent m =>
      if last.kind = .indent || last.kind = .dedent then .error ⟨Reading.Notes.line m list⟩
      else .error (settleFault list m ⟨last.span.line⟩)

/-- Read the expressions in the fields of formatted strings, which may hold formatted strings to the
    given depth. -/
def readFieldTo : Nat → ReadField
  | 0, line, _ => .error ⟨line⟩
  | depth + 1, line, text =>
    readTokens (tokenize line (closeLastLine text)) (readFieldTo depth) starExpressions

/-- Why a text is no code at all. -/
inductive ParseFault
  /-- It holds the character U+0000. -/
  | nullCharacter
  | malformed (fault : Fault)
deriving DecidableEq, Repr

/-- Read a text whose last line is closed by `close`. -/
def parseWith {α : Type} (p : Reading α) (close : List Char → List Char) (text : String) :
    Except ParseFault α :=
  let cs := text.toList
  if cs.contains '\x00' then .error .nullCharacter
  else match readTokens (tokenize 1 (close cs)) (readFieldTo cs.length) p with
    | .ok a => .ok a
    | .error fault => .error (.malformed fault)

/-- The statements of a module. -/
def Module.parse (text : String) : Except ParseFault (List Stmt) := parseWith file closeLastLine text

/-- A single expression. -/
def Expr.parse (text : String) : Except ParseFault Expr :=
  parseWith soleExpression Text.unifyLineEnds text

end RecordLens.Code
