import RecordLens.Code.Grammar.Word
/-!
Targets of assignments as far as comprehensions need them, and the `for … in … if …` clauses of
comprehensions.
-/
namespace RecordLens.Code.Grammar

open Reading

/-! ## Targets read as expressions -/

/-- What a target is for. -/
inductive TargetUse
  | assign | delete | loop
deriving DecidableEq

mutual

/-- The first part of an expression that cannot be a target. -/
def unfitTarget (use : TargetUse) : Expr → Option Expr
  | .list _ items => unfitAmong use items
  | .tuple _ items => unfitAmong use items
  | .starred s value => if use = .delete then some (.starred s value) else unfitTarget use value
  | .compare s left rest =>
    if use = .loop then
      -- `for a in b` reads as a comparison
      match rest with
      | .mk .isIn _ :: _ => unfitTarget use left
      | _ => none
    else some (.compare s left rest)
  | .name _ _ | .subscript _ _ _ | .attribute _ _ _ => none
  | e => some e

/-- The first part of several that is no such target. -/
def unfitAmong (use : TargetUse) : List Expr → Option Expr
  | [] => none
  | e :: es =>
    match unfitTarget use e with
    | some bad => some bad
    | none => unfitAmong use es

end

/-- Refuse an expression that cannot be a target. -/
def refuseUnfit (use : TargetUse) (e : Expr) : Reading Unit :=
  match unfitTarget use e with
  | some bad => refuseAt bad.line
  | none => absent

/-- Targets with commas between them, as a tuple. -/
def starTargets : Reading Expr :=
  (do
    let t ← target
    notAhead comma
    return t)
  <|> spanned (do
    let t ← target
    let ts ← many (do comma; target)
    let _ ← option comma
    return fun s => .tuple s (t :: ts))

/-! ## Clauses -/

/-- The fault of a loop over something that cannot be assigned to. -/
def forTargetTrap : Reading Unit := do
  let _ ← option (mark "async")
  word "for"
  let e ← starExpressions
  refuseUnfit .loop e

/-- `for targets in`; what follows decides alone. -/
def clauseHead : Reading Expr := do
  word "for"
  let t ← starTargets
  word "in"
  return t

/-- What a clause runs over, and its conditions. -/
def clauseTail (isAsync : Bool) (t : Expr) : Reading Clause := do
  let iter ← disjunction
  let conditions ← many (do word "if"; disjunction)
  return .mk isAsync t iter conditions

/-- `for target in items if condition …`, also with `async` in front. -/
def forClause : Reading Clause :=
  commit (do mark "async"; clauseHead) (clauseTail true)
    (commit clauseHead (clauseTail false) (trap forTargetTrap))

/-- The clauses of a comprehension. -/
def forClauses : Reading (List Clause) := many1 forClause

end RecordLens.Code.Grammar
