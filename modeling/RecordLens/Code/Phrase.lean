import RecordLens.Code.Expr
/-!
The phrases of the grammar that refer to each other or whose reading is remembered, with what reading
each of them gives.
-/
namespace RecordLens.Code

/-- What is passed in a call, and the line on which it begins. -/
structure Arguments where
  line : Nat
  args : List Expr
  keywords : List Keyword

/-- The phrases that refer to each other. -/
inductive Phrase
  -- expressions, from the loosest level to the tightest
  | expression | starExpression | disjunction | conjunction | inversion
  | bitOr | bitXor | bitAnd | shift | sum | product | factor | awaited | primary | strings
  | arguments
  -- what can be assigned to or deleted
  | target | targetAtom | targetPrimary | deleted | singleTarget
  -- expressions that are refused
  | assignmentTrap | annotationTarget
  -- patterns of `match`
  | closedPattern | starPattern | dottedPattern
  -- statements
  | dottedName | simpleStatement | block | elifBranch
deriving DecidableEq, Repr

/-- What reading a phrase gives. Of a pattern only its place is kept. -/
abbrev Phrase.Result : Phrase → Type
  | .arguments => Arguments
  | .assignmentTrap => Unit
  | .closedPattern | .starPattern | .dottedPattern => Span
  | .dottedName => String
  | .simpleStatement | .elifBranch => Stmt
  | .block => List Stmt
  | _ => Expr

/-- How a phrase is read. -/
inductive Phrase.Mode
  /-- Anew each time. -/
  | fresh
  /-- Once at each place; the result is remembered. -/
  | once
  /-- A phrase that may begin with itself: a first reading is extended as long as it grows. -/
  | growing

/-- How the results of a phrase are kept. -/
def Phrase.mode : Phrase → Phrase.Mode
  | .singleTarget | .annotationTarget | .elifBranch => .fresh
  | .bitOr | .bitXor | .bitAnd | .shift | .sum | .product | .primary | .targetPrimary
  | .dottedPattern | .dottedName => .growing
  | _ => .once

end RecordLens.Code
