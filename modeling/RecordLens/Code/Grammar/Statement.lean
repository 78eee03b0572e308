import RecordLens.Code.Grammar.Operator
import RecordLens.Code.Grammar.Target
import RecordLens.Code.Grammar.Pattern
/-!
Statements. Those that declare nothing are kept only with their places and the statements inside
them.
-/
namespace RecordLens.Code.Grammar

open Reading

/-! ## Assignments -/

/-- What stands on the right of an assignment. -/
def assignedValue : Reading Expr := yieldExpression <|> starExpressions

/-- The marks of assignments that compute the new value from the old one. -/
def augmentedMarks : List String :=
  ["+=", "-=", "*=", "@=", "/=", "%=", "&=", "|=", "^=", "<<=", ">>=", "**=", "//="]

/-- One of those marks. -/
def augmentedMark : Reading Unit := do
  let _ ← tokenIf fun t => t.kind = .mark && augmentedMarks.contains t.text

/-- `: type`, and `= value` if it is there. -/
def typeAndValue : Reading (Expr × Option Expr) := do
  mark ":"
  let a ← expression
  let v ← option (do mark "="; assignedValue)
  return (a, v)

/-- `a = b = …`, up to the last mark. -/
def assignmentChain : Reading (List Expr) := many1 do
  let t ← starTargets
  mark "="
  return t

/-- The faults of assignments: a target that cannot have a type, or one that cannot be assigned to.
-/
def assignmentStatementTrap : Reading Unit :=
  (do
    let a ← annotationTarget
    mark ":"
    let _ ← expression
    refuseAt a.line)
  <|> (do
    let a ← starNamedExpression
    comma
    let _ ← many starNamedExpressions
    mark ":"
    let _ ← expression
    refuseAt a.line)
  <|> (do
    let a ← expression
    mark ":"
    let _ ← expression
    refuseAt a.line)
  <|> commit (do
      let _ ← many (do let _ ← starTargets; mark "=")
      let a ← starExpressions
      mark "="
      return a)
    (refuseUnfit .assign)
    ((do
      let _ ← many (do let _ ← starTargets; mark "=")
      let a ← yieldExpression
      mark "="
      refuseAt a.line)
    <|> do
      let a ← starExpressions
      augmentedMark
      let _ ← assignedValue
      refuseAt a.line)

/-- An assignment, with a written type or without one. -/
def assignment : Reading Stmt :=
  spanned (do
    let t ← name
    let (a, v) ← typeAndValue
    return fun s => .annotate s t a v)
  <|> spanned (do
    let t ← (do
        mark "("
        let e ← singleTarget
        mark ")"
        return e)
      <|> memberTarget
    let (a, v) ← typeAndValue
    return fun s => .annotate s t a v)
  <|> spanned (do
    let ts ← assignmentChain
    let v ← assignedValue
    notAhead (mark "=")
    return fun s => .assign s ts v)
  <|> commit (do
      let first ← peek
      let _ ← singleTarget
      augmentedMark
      return first)
    (fun first => do
      let _ ← assignedValue
      fun e i n => .found (.simple (first.span.to (lastSpan e.list.tokens i))) i n)
    (trap assignmentStatementTrap)

/-! ## Imports -/

/-- What is imported, and the name that it gets here. -/
def aliasOf (p : Reading String) : Reading Alias := do
  let n ← p
  let a ← option (do word "as"; ident)
  return ⟨n, a⟩

/-- `a.b.c`. -/
def dottedNameBody : Reading String :=
  (do
    let d ← dottedName
    mark "."
    let n ← ident
    return d ++ "." ++ n)
  <|> ident

/-- `import a, b.c as d`. -/
def importModules : Reading Stmt := spanned do
  word "import"
  let names ← commaSeparated (aliasOf dottedName)
  return fun s => .importModules s names

/-- The names taken from a module. -/
def importedNames : Reading (List Alias) := commaSeparated (aliasOf ident)

/-- A comma behind the last name that is imported needs brackets around the names. -/
def importTargetsTrap : Reading Unit := do
  let _ ← importedNames
  comma
  newline
  refuseHere

/-- What is taken from a module: names, in brackets or not, or all of them. -/
def importTargets : Reading (List Alias) :=
  (do
    mark "("
    let names ← importedNames
    let _ ← option comma
    mark ")"
    return names)
  <|> (do
    let names ← importedNames
    notAhead comma
    return names)
  <|> (do
    mark "*"
    return [⟨"*", none⟩])
  <|> trap importTargetsTrap

/-- The dots before a relative module, and how many levels they go up. -/
def dots : Reading Nat := (do mark "."; return 1) <|> do mark "..."; return 3

/-- `from .a import b, c as d`. -/
def importFrom : Reading Stmt :=
  spanned (do
    word "from"
    let levels ← many dots
    let module ← dottedName
    word "import"
    let names ← importTargets
    return fun s => .importFrom s (levels.foldl Nat.add 0) (some module) names)
  <|> spanned (do
    word "from"
    let levels ← many1 dots
    word "import"
    let names ← importTargets
    return fun s => .importFrom s (levels.foldl Nat.add 0) none names)

/-! ## Other simple statements -/

/-- A statement that declares nothing. -/
def plain (p : Reading Unit) : Reading Stmt := spanned do
  p
  return .simple

/-- The fault of something that cannot be deleted. -/
def deletedTrap : Reading Unit := do
  word "del"
  let e ← starExpressions
  refuseUnfit .delete e

/-- `del a, b[0]`. -/
def delete : Reading Stmt :=
  plain (do
    word "del"
    let _ ← commaList deleted
    ahead (mark ";" <|> newline))
  <|> trap deletedTrap

/-- `raise`, alone or with what is raised and why. -/
def raiseStatement : Reading Stmt :=
  plain (do
    word "raise"
    let _ ← expression
    let _ ← option (do word "from"; expression))
  <|> plain (word "raise")

/-- A statement that has no block. The word it begins with decides, but for assignments and
expressions. -/
def simpleStatementBody : Reading Stmt :=
  assignment
  <|> spanned (do
    let e ← starExpressions
    return fun s => .evaluate s e)
  <|> (do
    ahead (word "return")
    plain (do
      word "return"
      let _ ← option starExpressions))
  <|> (do
    ahead (word "import" <|> word "from")
    importModules <|> importFrom)
  <|> (do
    ahead (word "raise")
    raiseStatement)
  <|> plain (word "pass")
  <|> (do
    ahead (word "del")
    delete)
  <|> (do
    ahead (word "yield")
    spanned do
      let e ← yieldExpression
      return fun s => .evaluate s e)
  <|> (do
    ahead (word "assert")
    plain (do
      word "assert"
      let _ ← expression
      let _ ← option (do comma; expression)))
  <|> plain (word "break")
  <|> plain (word "continue")
  <|> (do
    ahead (word "global")
    plain (do
      word "global"
      let _ ← commaSeparated nameToken))
  <|> (do
    ahead (word "nonlocal")
    plain (do
      word "nonlocal"
      let _ ← commaSeparated nameToken))

/-- Simple statements on one line, with semicolons between them. -/
def simpleStatements : Reading (List Stmt) :=
  (do
    let s ← simpleStatement
    notAhead (mark ";")
    newline
    return [s])
  <|> do
    let ss ← separated (mark ";") simpleStatement
    let _ ← option (mark ";")
    newline
    return ss

/-! ## Blocks -/

/-- A block is missing where the head of a statement has ended. -/
def blockMissing : Reading Unit := do
  newline
  notAhead (kind .indent)
  refuseHere

/-- The colon is missing at the end of the head of a statement. -/
def colonMissing : Reading Unit := do
  newline
  refuseHere

/-- The colon at the end of a head. -/
def colon : Reading Unit := mark ":"

/-- The two faults at the end of a head: no colon, or no block behind it. -/
def headTrap (head : Reading Unit) : Reading Unit :=
  (do
    head
    colonMissing)
  <|> do
    head
    colon
    blockMissing

/-- The fault of a head without parts of its own: no block behind it. -/
def bareHeadTrap (head : Reading Unit) : Reading Unit := do
  head
  colon
  blockMissing

/-- No block behind `else:`. -/
def elseTrap : Reading Unit := bareHeadTrap (word "else")

/-- `else:` and its block. -/
def elseBlock : Reading (List Stmt) :=
  trap elseTrap
  <|> do
    word "else"
    demand colon
    block

/-- The block of an `else`, or nothing. -/
def optionalElse : Reading (List Stmt) := do return (← option elseBlock).getD []

/-! ## Conditions and loops -/

/-- A keyword and the condition behind it. -/
def conditionHead (keyword : String) : Reading Unit := do
  word keyword
  let _ ← namedExpression

/-- `if` or `elif` with its block, and the branches that follow it. -/
def branch (keyword : String) : Reading Stmt :=
  trap (headTrap (conditionHead keyword))
  <|> spanned (do
    conditionHead keyword
    colon
    let b ← block
    let c ← elifBranch
    return fun s => .compound s (b ++ [c]))
  <|> spanned (do
    conditionHead keyword
    colon
    let b ← block
    let c ← optionalElse
    return fun s => .compound s (b ++ c))

/-- `elif` and what follows it. -/
def elifBranchBody : Reading Stmt := branch "elif"

/-- `while` with its block, and the block of its `else`. -/
def whileStatement : Reading Stmt :=
  trap (headTrap (conditionHead "while"))
  <|> spanned (do
    conditionHead "while"
    colon
    let b ← block
    let c ← optionalElse
    return fun s => .compound s (b ++ c))

/-- The faults at the end of the head of a `for`. -/
def forHeadTrap : Reading Unit := headTrap do
  let _ ← option (mark "async")
  word "for"
  let _ ← starTargets
  word "in"
  let _ ← starExpressions

/-- A `for` from what it runs over on. Its place begins with the given token. -/
def forTail (first : Span) : Reading Stmt := do
  let _ ← starExpressions
  colon
  let b ← block
  let c ← optionalElse
  fun e i n => .found (.compound (first.to (lastSpan e.list.tokens i)) (b ++ c)) i n

/-- `for target in items:`, also with `async` in front. -/
def forStatement : Reading Stmt :=
  trap forHeadTrap
  <|> do
    let first ← peek
    commit (do let _ ← clauseHead) (fun _ => forTail first.span)
      (commit (do mark "async"; let _ ← clauseHead) (fun _ => forTail first.span)
        (trap forTargetTrap))

/-! ## `with` and `try` -/

/-- The fault of a `with` whose value is given to something that cannot be assigned to. -/
def withItemTrap : Reading Unit := do
  let _ ← expression
  word "as"
  let e ← expression
  ahead (comma <|> mark ")" <|> colon)
  refuseUnfit .assign e

/-- A value of a `with`, and what it is given to. -/
def withItem : Reading Unit :=
  (do
    let _ ← expression
    word "as"
    let _ ← target
    ahead (comma <|> mark ")" <|> colon))
  <|> trap withItemTrap
  <|> do let _ ← expression

/-- `as target`, if it is there. -/
def asTarget : Reading Unit := do
  let _ ← option (do word "as"; target)

/-- Heads of a `with` up to where something is wrong. -/
def withHeads (tail : Reading Unit) : Reading Unit :=
  (do
    let _ ← option (mark "async")
    word "with"
    let _ ← commaSeparated (do let _ ← expression; asTarget)
    tail)
  <|> do
    let _ ← option (mark "async")
    word "with"
    mark "("
    let _ ← commaSeparated (do let _ ← expressions; asTarget)
    let _ ← option comma
    mark ")"
    tail

/-- The head of a `with` that has brackets around its values. -/
def withBracketed : Reading Unit := do
  word "with"
  mark "("
  let _ ← commaSeparated withItem
  let _ ← option comma
  mark ")"
  colon

/-- The head of a `with` without brackets of its own. -/
def withPlain : Reading Unit := do
  word "with"
  let _ ← commaSeparated withItem
  colon

/-- A `with` that has such a head. -/
def withForm (head : Reading Unit) : Reading Stmt := spanned do
  head
  let b ← block
  return fun s => .compound s b

/-- `with a as b, c:`, also with `async` in front. -/
def withStatement : Reading Stmt :=
  trap (withHeads (do colon; blockMissing))
  <|> withForm withBracketed
  <|> withForm withPlain
  <|> withForm (do mark "async"; withBracketed)
  <|> withForm (do mark "async"; withPlain)
  <|> trap (withHeads colonMissing)

/-- `as name`, if it is there. -/
def exceptName : Reading Unit := do
  let _ ← option (do word "as"; ident)

/-- The faults in the head of an `except`. -/
def exceptTrap : Reading Unit :=
  (do
    word "except"
    let _ ← option (mark "*")
    let e ← expression
    comma
    let _ ← expressions
    exceptName
    colon
    refuseAt e.line)
  <|> (do
    word "except"
    let _ ← option (mark "*")
    let _ ← expression
    exceptName
    colonMissing)
  <|> (do
    word "except"
    colonMissing)
  <|> do
    word "except"
    mark "*"
    newline <|> colon
    refuseHere

/-- No block behind the head of an `except`. -/
def exceptIndentTrap : Reading Unit :=
  bareHeadTrap (do
    word "except"
    let _ ← expression
    exceptName)
  <|> bareHeadTrap (word "except")

/-- `except kind as name:` and its block. -/
def exceptBlock : Reading (List Stmt) :=
  trap exceptIndentTrap
  <|> (do
    word "except"
    let _ ← expression
    exceptName
    colon
    block)
  <|> (do
    word "except"
    colon
    block)
  <|> trap exceptTrap

/-- `except* kind as name`. -/
def exceptStarHead : Reading Unit := do
  word "except"
  mark "*"
  let _ ← expression
  exceptName

/-- `except* kind as name:` and its block. -/
def exceptStarBlock : Reading (List Stmt) :=
  trap (bareHeadTrap exceptStarHead)
  <|> (do
    exceptStarHead
    colon
    block)
  <|> trap exceptTrap

/-- `finally:` and its block. -/
def finallyBlock : Reading (List Stmt) :=
  trap (bareHeadTrap (word "finally"))
  <|> do
    word "finally"
    demand colon
    block

/-- The faults of a `try`: no block, no handler, or handlers of both sorts. -/
def tryTrap : Reading Unit :=
  bareHeadTrap (word "try")
  <|> (do
    word "try"
    colon
    let _ ← block
    notAhead (word "except" <|> word "finally")
    refuseHere)
  <|> do
    word "try"
    colon
    let _ ← many block
    (do
      let _ ← many1 exceptBlock
      let _ ← exceptStarBlock)
    <|> do
      let _ ← many1 exceptStarBlock
      let _ ← exceptBlock
    let _ ← many block
    refuseHere

/-- `try:` and its block. -/
def tryHead : Reading (List Stmt) := do
  word "try"
  demand colon
  block

/-- A `try` with handlers of one sort. -/
def tryWith (handler : Reading (List Stmt)) : Reading Stmt := spanned do
  let b ← tryHead
  let hs ← many1 handler
  let o ← optionalElse
  let f ← option finallyBlock
  return fun s => .compound s (b ++ hs.flatten ++ o ++ f.getD [])

/-- `try` with handlers or a `finally`, or with both. -/
def tryStatement : Reading Stmt :=
  trap tryTrap
  <|> spanned (do
    let b ← tryHead
    let f ← finallyBlock
    return fun s => .compound s (b ++ f))
  <|> tryWith exceptBlock
  <|> tryWith exceptStarBlock

/-! ## `match` -/

/-- What a `match` looks at. -/
def subject : Reading Unit :=
  (do
    let _ ← starNamedExpression
    comma
    let _ ← option starNamedExpressions)
  <|> do let _ ← namedExpression

/-- The condition of a `case`. -/
def guard : Reading Unit := conditionHead "if"

/-- `case pattern if condition`. -/
def caseHead : Reading Unit := do
  word "case"
  casePattern
  let _ ← option guard

/-- A `case` and its block. -/
def caseBlock : Reading (List Stmt) :=
  trap (headTrap caseHead)
  <|> do
    caseHead
    colon
    block

/-- `match subject`. -/
def matchHead : Reading Unit := do
  word "match"
  subject

/-- `match subject:` and its cases. -/
def matchStatement : Reading Stmt :=
  spanned (do
    matchHead
    colon
    newline
    kind .indent
    let cases ← many1 caseBlock
    kind .dedent
    return fun s => .compound s cases.flatten)
  <|> trap (headTrap matchHead)

/-! ## Definitions -/

/-- `@decorator` on lines of their own. -/
def decorators : Reading (List Expr) := many1 do
  mark "@"
  let e ← namedExpression
  newline
  return e

/-- No block behind the head of a function. -/
def functionTrap : Reading Unit := bareHeadTrap do
  let _ ← option (mark "async")
  word "def"
  let _ ← nameToken
  mark "("
  let _ ← option (params .function)
  mark ")"
  let _ ← option (do mark "->"; expression)

/-- A function behind its decorators, from its first word on. -/
def functionForm (isAsync : Bool) (decorators : List Expr) (start : Reading Unit) : Reading Stmt :=
  spanned do
    start
    word "def"
    let n ← ident
    demand (mark "(")
    let ps ← option (params .function)
    mark ")"
    let _ ← option (do mark "->"; expression)
    demand colon
    let b ← block
    return fun s => .functionDef s isAsync n decorators (ps.getD (.mk [] [] none [] none)) b

/-- A function behind its decorators. -/
def functionHead (decorators : List Expr) : Reading Stmt :=
  trap functionTrap
  <|> functionForm false decorators (return ())
  <|> functionForm true decorators (mark "async")

/-- A function, with decorators or without. -/
def functionDef : Reading Stmt :=
  (do functionHead (← decorators))
  <|> functionHead []

/-- `class Name(bases)`, with the arguments that are passed by position as the bases. -/
def classHead : Reading (String × List Expr) := do
  word "class"
  let n ← ident
  let args ← option do
    mark "("
    let args ← option arguments
    mark ")"
    return args
  let bases := match args with
    | some (some a) => a.args
    | _ => []
  return (n, bases)

/-- A class behind its decorators. -/
def classTail (decorators : List Expr) : Reading Stmt :=
  trap (headTrap (do let _ ← classHead))
  <|> spanned (do
    let (n, bases) ← classHead
    colon
    let b ← block
    return fun s => .classDef s n decorators bases b)

/-- A class, with decorators or without. -/
def classDef : Reading Stmt :=
  (do classTail (← decorators))
  <|> classTail []

/-! ## Statements -/

/-- A statement that has a block. The word it begins with decides, but for `match`. -/
def compoundStatement : Reading Stmt :=
  (do
    ahead (word "def" <|> mark "@" <|> mark "async")
    functionDef)
  <|> (do
    ahead (word "if")
    branch "if")
  <|> (do
    ahead (word "class" <|> mark "@")
    classDef)
  <|> (do
    ahead (word "with" <|> mark "async")
    withStatement)
  <|> (do
    ahead (word "for" <|> mark "async")
    forStatement)
  <|> (do
    ahead (word "try")
    tryStatement)
  <|> (do
    ahead (word "while")
    whileStatement)
  <|> matchStatement

/-- A statement, or several simple ones on one line. -/
def statement : Reading (List Stmt) :=
  (do return [← compoundStatement]) <|> simpleStatements

/-- One statement after the other. -/
def statements : Reading (List Stmt) := do return (← many1 statement).flatten

/-- The body of a statement: indented on lines of its own, or simple statements on the line of the
head. -/
def blockBody : Reading (List Stmt) :=
  (do
    newline
    kind .indent
    let ss ← statements
    kind .dedent
    return ss)
  <|> simpleStatements
  <|> trap blockMissing

/-! ## Whole texts -/

/-- A module. -/
def file : Reading (List Stmt) := do
  let ss ← option statements
  kind .endMarker
  return ss.getD []

/-- A single expression on its own. -/
def soleExpression : Reading Expr := do
  let e ← expressions
  let _ ← many newline
  kind .endMarker
  return e

end RecordLens.Code.Grammar
