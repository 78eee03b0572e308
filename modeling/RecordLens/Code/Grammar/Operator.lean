import RecordLens.Code.Grammar.Display
import RecordLens.Code.Grammar.Parameter
/-!
Expressions by level, from conditional expressions and `lambda` down to calls, subscripts and
attributes.
-/
namespace RecordLens.Code.Grammar

open Reading

/-! ## Conditional expressions and `lambda` -/

/-- `body if test else other`. -/
def choice : Reading Expr := spanned do
  let body ← disjunction
  word "if"
  let test ← disjunction
  word "else"
  let other ← expression
  return fun s => .choice s body test other

/-- `lambda params: body`. -/
def lambda : Reading Expr := spanned do
  word "lambda"
  let ps ← option (params .lambda)
  mark ":"
  let body ← expression
  return fun s => .lambda s (ps.getD (.mk [] [] none [] none)) body

/-- Whether an expression is the name of a command that was once a statement. -/
def isOldCommand : Expr → Bool
  | .name _ id => id = "print" || id = "exec"
  | _ => false

/-- The faults of expressions: two of them side by side within brackets, or a condition without its
`else`. -/
def expressionTrap : Reading Unit :=
  commit (do
      notAhead ((do
          let _ ← nameToken
          kind .string)
        <|> do
          let _ ← tokenIf fun t => t.kind = .name && softKeywords.contains t.text)
      let a ← disjunction
      let _ ← withoutTraps (choice <|> disjunction <|> lambda)
      return a)
    (fun a => fun e i n =>
      let depth := ((e.list.tokens[i - 1]?).map (·.depth)).getD 0
      if isOldCommand a || depth = 0 then .absent n else .fault ⟨a.line⟩ n)
    (do
      let a ← disjunction
      word "if"
      let _ ← disjunction
      notAhead (word "else" <|> mark ":")
      refuseAt a.line)

/-- The fault of a command that was once a statement, with its arguments behind it. -/
def oldCommandTrap : Reading Unit := do
  let a ← name
  notAhead (mark "(")
  let _ ← starExpressions
  if isOldCommand a then refuseAt a.line else absent

/-- An expression without a comma, a star or a name of its own. -/
def expressionBody : Reading Expr :=
  trap expressionTrap
  <|> trap oldCommandTrap
  <|> choice
  <|> disjunction
  <|> lambda

/-- An expression, perhaps with a star. -/
def starExpressionBody : Reading Expr :=
  spanned (do
    mark "*"
    let e ← bitOr
    return fun s => .starred s e)
  <|> expression

/-- Refuse an assignment where only an expression may stand. -/
def assignmentTrapBody : Reading Unit :=
  (do
    let a ← expression
    mark ":="
    let _ ← expression
    refuseAt a.line)
  <|> (do
    let t ← nameToken
    mark "="
    let _ ← bitOr
    notAhead (mark "=" <|> mark ":=")
    refuseAt t.span.line)
  <|> do
    notAhead ((do let _ ← list <|> tuple <|> generator)
      <|> word "True" <|> word "None" <|> word "False")
    let a ← bitOr
    mark "="
    let _ ← bitOr
    notAhead (mark "=" <|> mark ":=")
    refuseAt a.line

/-! ## Operators -/

/-- `a operator b operator …`, as one operation. -/
def logicBody (operator : String) (op : LogicOp) (operand : Reading Expr) : Reading Expr :=
  spanned (do
    let a ← operand
    let bs ← many1 (do word operator; operand)
    return fun s => .logic s op (a :: bs))
  <|> operand

/-- The operator of a comparison. -/
def compareOp : Reading CompareOp :=
  (do mark "=="; return .eq)
  <|> (do mark "!="; return .ne)
  <|> (do mark "<="; return .le)
  <|> (do mark "<"; return .lt)
  <|> (do mark ">="; return .ge)
  <|> (do mark ">"; return .gt)
  <|> (do word "not"; word "in"; return .notIn)
  <|> (do word "in"; return .isIn)
  <|> (do word "is"; word "not"; return .isNot)
  <|> (do word "is"; return .is)

/-- `a < b <= c …`, as one comparison. -/
def comparison : Reading Expr :=
  spanned (do
    let left ← bitOr
    let rest ← many1 do
      let op ← compareOp
      let right ← bitOr
      return Comparison.mk op right
    return fun s => .compare s left rest)
  <|> bitOr

/-- `not value`. -/
def inversionBody : Reading Expr :=
  spanned (do
    word "not"
    let e ← inversion
    return fun s => .sign s .negation e)
  <|> comparison

/-- `left operator right`, where the left side may be of the same form. -/
def binary (left right : Reading Expr) (operator : String) (op : BinaryOp) : Reading Expr :=
  spanned do
    let l ← left
    mark operator
    let r ← right
    return fun s => .binary s l op r

/-- `a | b`, from the left. -/
def bitOrBody : Reading Expr := binary bitOr bitXor "|" .bitOr <|> bitXor

/-- `a ^ b`, from the left. -/
def bitXorBody : Reading Expr := binary bitXor bitAnd "^" .bitXor <|> bitAnd

/-- `a & b`, from the left. -/
def bitAndBody : Reading Expr := binary bitAnd shift "&" .bitAnd <|> shift

/-- `a << b` and `a >> b`, from the left. -/
def shiftBody : Reading Expr :=
  binary shift sum "<<" .shiftLeft <|> binary shift sum ">>" .shiftRight <|> sum

/-- `a + b` and `a - b`, from the left. -/
def sumBody : Reading Expr :=
  binary sum product "+" .add <|> binary sum product "-" .sub <|> product

/-- `a * b` and the operators of its level, from the left. -/
def productBody : Reading Expr :=
  binary product factor "*" .mul
  <|> binary product factor "/" .div
  <|> binary product factor "//" .floorDiv
  <|> binary product factor "%" .mod
  <|> binary product factor "@" .matMul
  <|> factor

/-- An operator in front of its operand. -/
def signed (operator : String) (op : SignOp) : Reading Expr := spanned do
  mark operator
  let e ← factor
  return fun s => .sign s op e

/-- Signs and powers: `-a ** -b`. -/
def factorBody : Reading Expr :=
  signed "+" .plus
  <|> signed "-" .minus
  <|> signed "~" .invert
  <|> binary awaited factor "**" .pow
  <|> awaited

/-- `await value`. -/
def awaitedBody : Reading Expr :=
  spanned (do
    mark "await"
    let e ← primary
    return fun s => .await s e)
  <|> primary

/-! ## Calls, subscripts and attributes -/

/-- Attributes, calls and subscripts, from the left. -/
def primaryBody : Reading Expr :=
  spanned (do
    let e ← primary
    mark "."
    let n ← ident
    return fun s => .attribute s e n)
  <|> spanned (do
    let e ← primary
    let g ← generator
    return fun s => .call s e [g] [])
  <|> spanned (do
    let e ← primary
    mark "("
    let args ← option arguments
    mark ")"
    return fun s =>
      match args with
      | some a => .call s e a.args a.keywords
      | none => .call s e [] [])
  <|> spanned (do
    let e ← primary
    mark "["
    let i ← slices
    mark "]"
    return fun s => .subscript s e i)
  <|> atom

end RecordLens.Code.Grammar
