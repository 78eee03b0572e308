import RecordLens.Code.Reading
import RecordLens.Text.NormalForm
/-!
Reading single tokens, and the names of the phrases that refer to each other.
-/
namespace RecordLens.Code.Grammar

open Reading

/-! ## Tokens -/

/-- The words that are no names. -/
def keywords : List String :=
  ["False", "None", "True", "and", "as", "assert", "break", "class", "continue", "def", "del",
   "elif", "else", "except", "finally", "for", "from", "global", "if", "import", "in", "is",
   "lambda", "nonlocal", "not", "or", "pass", "raise", "return", "try", "while", "with", "yield"]

/-- The words that are keywords only at the start of some statements and patterns. -/
def softKeywords : List String := ["_", "case", "match"]

/-- The token of an operator or a bracket. -/
def markToken (text : String) : Reading Token := tokenIf fun t => t.kind = .mark && t.text = text

/-- The token of a keyword. -/
def wordToken (text : String) : Reading Token := tokenIf fun t => t.kind = .name && t.text = text

/-- A token of a kind. -/
def kindToken (kind : TokenKind) : Reading Token := tokenIf fun t => t.kind = kind

/-- An operator or a bracket. -/
def mark (text : String) : Reading Unit := do let _ ← markToken text

/-- A keyword. -/
def word (text : String) : Reading Unit := do let _ ← wordToken text

/-- A token of a kind, of which nothing is kept. -/
def kind (k : TokenKind) : Reading Unit := do let _ ← kindToken k

/-- The end of a line. -/
def newline : Reading Unit := kind .newline

/-- A mark or a word that must come next. -/
def demand (p : Reading Unit) : Reading Unit :=
  p <|> do refuseAt (← peek).span.line

/-- The token of a name: a word that is no keyword. -/
def nameToken : Reading Token := tokenIf fun t => t.kind = .name && !keywords.contains t.text

/-- A name, in its normal form. -/
def ident : Reading String := do return Text.normalForm (← nameToken).text

/-- A name as an expression. -/
def name : Reading Expr := do
  let t ← nameToken
  return .name t.span (Text.normalForm t.text)

/-- The line of the next token. -/
def nextLine : Reading Nat := do return (← peek).span.line

/-- The mark `,`. -/
def comma : Reading Unit := mark ","

/-- One or more, with commas between them. -/
def commaSeparated {α : Type} (p : Reading α) : Reading (List α) := separated comma p

/-- One or more, with commas between them and perhaps one behind. -/
def commaList {α : Type} (p : Reading α) : Reading (List α) := do
  let as ← commaSeparated p
  let _ ← option comma
  return as

/-! ## Phrases -/

def expression : Reading Expr := phrase .expression
def starExpression : Reading Expr := phrase .starExpression
def disjunction : Reading Expr := phrase .disjunction
def conjunction : Reading Expr := phrase .conjunction
def inversion : Reading Expr := phrase .inversion
def bitOr : Reading Expr := phrase .bitOr
def bitXor : Reading Expr := phrase .bitXor
def bitAnd : Reading Expr := phrase .bitAnd
def shift : Reading Expr := phrase .shift
def sum : Reading Expr := phrase .sum
def product : Reading Expr := phrase .product
def factor : Reading Expr := phrase .factor
def awaited : Reading Expr := phrase .awaited
def primary : Reading Expr := phrase .primary
def strings : Reading Expr := phrase .strings
def arguments : Reading Arguments := phrase .arguments
def target : Reading Expr := phrase .target
def targetAtom : Reading Expr := phrase .targetAtom
def targetPrimary : Reading Expr := phrase .targetPrimary
def deleted : Reading Expr := phrase .deleted
def singleTarget : Reading Expr := phrase .singleTarget
def assignmentTrap : Reading Unit := phrase .assignmentTrap
def annotationTarget : Reading Expr := phrase .annotationTarget
def closedPattern : Reading Span := phrase .closedPattern
def starPattern : Reading Span := phrase .starPattern
def dottedPattern : Reading Span := phrase .dottedPattern
def dottedName : Reading String := phrase .dottedName
def simpleStatement : Reading Stmt := phrase .simpleStatement
def block : Reading (List Stmt) := phrase .block
def elifBranch : Reading Stmt := phrase .elifBranch

/-! ## Lists of expressions -/

/-- `a, b, …` with or without a comma behind, or a single expression. -/
def tupleOr (p : Reading Expr) : Reading Expr :=
  spanned (do
    let a ← p
    let bs ← many1 (do comma; p)
    let _ ← option comma
    return fun s => .tuple s (a :: bs))
  <|> spanned (do
    let a ← p
    comma
    return fun s => .tuple s [a])
  <|> p

/-- `a, *b, …`, a tuple without brackets. -/
def starExpressions : Reading Expr := tupleOr starExpression

/-- `a, b, …`, a tuple without brackets and without stars. -/
def expressions : Reading Expr := tupleOr expression

/-- `name := value`. -/
def assignmentExpression : Reading Expr := spanned do
  let t ← name
  mark ":="
  let v ← expression
  return fun s => .assignment s t v

/-- An expression that may give its value a name. -/
def namedExpression : Reading Expr :=
  assignmentExpression
  <|> trap assignmentTrap
  <|> do
    let e ← expression
    notAhead (mark ":=")
    return e

/-- An expression that is not the name of an assignment. -/
def plainExpression : Reading Expr := do
  let e ← expression
  notAhead (mark ":=")
  return e

/-- An item of a list, a set or a tuple in brackets. -/
def starNamedExpression : Reading Expr :=
  spanned (do
    mark "*"
    let e ← bitOr
    return fun s => .starred s e)
  <|> namedExpression

/-- The items of a list, a set or a tuple in brackets. -/
def starNamedExpressions : Reading (List Expr) := commaList starNamedExpression

/-- `*value`. -/
def starredExpression : Reading Expr := spanned do
  mark "*"
  let e ← expression
  return fun s => .starred s e

/-- `yield value` or `yield from values`. -/
def yieldExpression : Reading Expr :=
  spanned (do
    word "yield"
    word "from"
    let e ← expression
    return fun s => .yieldFrom s e)
  <|> spanned (do
    word "yield"
    let e ← option starExpressions
    return fun s => .yield s e)

end RecordLens.Code.Grammar
