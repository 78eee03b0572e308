import RecordLens.Code.Token
import RecordLens.Decimal.Nearest
/-!
Expressions and statements of code, as far as declarations are read from them: expressions whole,
statements by what they declare.
-/
namespace RecordLens.Code

/-- The value of a literal. Text is a list of code points, which an escape can make any number below
    `0x110000`; `marked` text was written with the letter `u`. -/
inductive Literal
  | none
  | bool (value : Bool)
  | ellipsis
  | int (value : Nat)
  | real (value : Decimal.Binary64)
  | imaginary (value : Decimal.Binary64)
  | text (points : List Nat) (marked : Bool)
  | bytes (values : List Nat)
deriving DecidableEq, Repr, Inhabited

/-- The operators with one operand. -/
inductive SignOp
  | plus | minus | invert | negation
deriving DecidableEq, Repr, Inhabited

/-- The operators with two operands. -/
inductive BinaryOp
  | add | sub | mul | matMul | div | floorDiv | mod | pow | shiftLeft | shiftRight
  | bitOr | bitXor | bitAnd
deriving DecidableEq, Repr, Inhabited

/-- The operators between truth values. -/
inductive LogicOp
  | conj | disj
deriving DecidableEq, Repr, Inhabited

/-- The operators of comparisons. -/
inductive CompareOp
  | eq | ne | lt | le | gt | ge | is | isNot | isIn | notIn
deriving DecidableEq, Repr, Inhabited

mutual

/-- Expressions. Each one has its place in the text. -/
inductive Expr
  | name (span : Span) (id : String)
  | literal (span : Span) (value : Literal)
  | attribute (span : Span) (value : Expr) (attr : String)
  | subscript (span : Span) (value index : Expr)
  | starred (span : Span) (value : Expr)
  | call (span : Span) (func : Expr) (args : List Expr) (keywords : List Keyword)
  | sign (span : Span) (op : SignOp) (operand : Expr)
  | binary (span : Span) (left : Expr) (op : BinaryOp) (right : Expr)
  | logic (span : Span) (op : LogicOp) (operands : List Expr)
  | compare (span : Span) (left : Expr) (rest : List Comparison)
  | choice (span : Span) (body test orElse : Expr)
  | lambda (span : Span) (params : Params) (body : Expr)
  | assignment (span : Span) (target value : Expr)
  | tuple (span : Span) (items : List Expr)
  | list (span : Span) (items : List Expr)
  | set (span : Span) (items : List Expr)
  | dict (span : Span) (items : List DictItem)
  | listOf (span : Span) (item : Expr) (clauses : List Clause)
  | setOf (span : Span) (item : Expr) (clauses : List Clause)
  | dictOf (span : Span) (key value : Expr) (clauses : List Clause)
  | generator (span : Span) (item : Expr) (clauses : List Clause)
  | await (span : Span) (value : Expr)
  | yield (span : Span) (value : Option Expr)
  | yieldFrom (span : Span) (value : Expr)
  | slice (span : Span) (lower upper step : Option Expr)
  | formatted (span : Span) (pieces : List Piece)

/-- `name=value` in a call, or `**value` without a name. -/
inductive Keyword
  | mk (name : Option String) (value : Expr)

/-- An operator of a comparison and its right operand. -/
inductive Comparison
  | mk (op : CompareOp) (right : Expr)

/-- `key: value` in a dictionary display, or `**value`. -/
inductive DictItem
  | pair (key value : Expr)
  | spread (value : Expr)

/-- One `for … in … if …` of a comprehension. -/
inductive Clause
  | mk (isAsync : Bool) (target iter : Expr) (conditions : List Expr)

/-- A parameter with its type and its default. -/
inductive Param
  | mk (name : String) (type : Option Expr) (default : Option Expr)

/-- A list of parameters, by the ways in which they are given. -/
inductive Params
  | mk (positionalOnly positional : List Param) (variadic : Option Param)
      (keywordOnly : List Param) (keywords : Option Param)

/-- A piece of a formatted string: text, or a replacement field with its conversion letter and its
    format. -/
inductive Piece
  | text (points : List Nat)
  | field (value : Expr) (conversion : Option Char)
  | fieldWith (value : Expr) (conversion : Option Char) (format : List Piece)

end

instance : Inhabited Expr := ⟨.name default ""⟩
instance : Inhabited Params := ⟨.mk [] [] none [] none⟩
instance : Inhabited Clause := ⟨.mk false default default []⟩

/-- The place of an expression. -/
def Expr.span : Expr → Span
  | .name s _ | .literal s _ | .attribute s _ _ | .subscript s _ _ | .starred s _ | .call s _ _ _
  | .sign s _ _ | .binary s _ _ _ | .logic s _ _ | .compare s _ _ | .choice s _ _ _
  | .lambda s _ _ | .assignment s _ _ | .tuple s _ | .list s _ | .set s _ | .dict s _
  | .listOf s _ _ | .setOf s _ _ | .dictOf s _ _ _ | .generator s _ _ | .await s _ | .yield s _
  | .yieldFrom s _ | .slice s _ _ _ | .formatted s _ => s

/-- The line on which an expression begins. -/
def Expr.line (e : Expr) : Nat := e.span.line

/-- The name of a parameter. -/
def Param.name : Param → String
  | .mk name _ _ => name

/-- The written type of a parameter. -/
def Param.type : Param → Option Expr
  | .mk _ type _ => type

/-- The name of an argument; one that is unpacked has none. -/
def Keyword.name : Keyword → Option String
  | .mk name _ => name

/-- The value of an argument. -/
def Keyword.value : Keyword → Expr
  | .mk _ value => value

/-- `name` or `name as alias` in an import. -/
structure Alias where
  name : String
  asName : Option String
deriving DecidableEq, Repr, Inhabited

/-- Statements. Each one has its place in the text. -/
inductive Stmt
  | classDef (span : Span) (name : String) (decorators bases : List Expr) (body : List Stmt)
  | functionDef (span : Span) (isAsync : Bool) (name : String) (decorators : List Expr)
      (params : Params) (body : List Stmt)
  | assign (span : Span) (targets : List Expr) (value : Expr)
  | annotate (span : Span) (target type : Expr) (value : Option Expr)
  | importModules (span : Span) (names : List Alias)
  | importFrom (span : Span) (level : Nat) (module : Option String) (names : List Alias)
  | evaluate (span : Span) (value : Expr)
  /-- Any other statement with statements inside, which are kept in their order. -/
  | compound (span : Span) (body : List Stmt)
  /-- Any other statement. -/
  | simple (span : Span)
deriving Inhabited

/-- The place of a statement. -/
def Stmt.span : Stmt → Span
  | .classDef s _ _ _ _ | .functionDef s _ _ _ _ _ | .assign s _ _ | .annotate s _ _ _
  | .importModules s _ | .importFrom s _ _ _ | .evaluate s _ | .compound s _ | .simple s => s

end RecordLens.Code
