import RecordLens.Code.Grammar.Display
/-!
What can be assigned to, deleted or annotated: names, attributes, subscripts, and lists and tuples of
them.
-/
namespace RecordLens.Code.Grammar

open Reading

/-- Whether a target goes on with an attribute, a subscript or a call. -/
def goesOn : Reading Unit := mark "(" <|> mark "[" <|> mark "."

/-- `value.name` in front of something. -/
def attributeOf (e : Reading Expr) (after : Reading Unit) : Reading Expr := spanned do
  let a ← e
  mark "."
  let n ← ident
  after
  return fun s => .attribute s a n

/-- `value[index]` in front of something. -/
def subscriptOf (e : Reading Expr) (after : Reading Unit) : Reading Expr := spanned do
  let a ← e
  mark "["
  let i ← slices
  mark "]"
  after
  return fun s => .subscript s a i

/-- The front part of a target, which goes on behind it. -/
def targetPrimaryBody : Reading Expr :=
  attributeOf targetPrimary (ahead goesOn)
  <|> subscriptOf targetPrimary (ahead goesOn)
  <|> spanned (do
    let a ← targetPrimary
    let g ← generator
    ahead goesOn
    return fun s => .call s a [g] [])
  <|> spanned (do
    let a ← targetPrimary
    mark "("
    let args ← option arguments
    mark ")"
    ahead goesOn
    return fun s =>
      match args with
      | some r => .call s a r.args r.keywords
      | none => .call s a [] [])
  <|> do
    let a ← atom
    ahead goesOn
    return a

/-- A target that ends in an attribute or a subscript. -/
def memberTarget : Reading Expr :=
  attributeOf targetPrimary (notAhead goesOn) <|> subscriptOf targetPrimary (notAhead goesOn)

/-- What can be assigned to, perhaps with a star. -/
def targetBody : Reading Expr :=
  spanned (do
    mark "*"
    notAhead (mark "*")
    let e ← target
    return fun s => .starred s e)
  <|> targetAtom

/-- Targets of a tuple: at least two, or one with a comma. -/
def tupleTargets : Reading (List Expr) :=
  (do
    let t ← target
    let ts ← many1 (do comma; target)
    let _ ← option comma
    return t :: ts)
  <|> do
    let t ← target
    comma
    return [t]

/-- What can be assigned to: a member, a name, or targets in brackets. -/
def targetAtomBody : Reading Expr :=
  memberTarget
  <|> name
  <|> (do
    mark "("
    let e ← targetAtom
    mark ")"
    return e)
  <|> spanned (do
    mark "("
    let es ← option tupleTargets
    mark ")"
    return fun s => .tuple s (es.getD []))
  <|> spanned (do
    mark "["
    let es ← option (commaList target)
    mark "]"
    return fun s => .list s (es.getD []))

/-- A target that is not several: a member or a name, in brackets or not. -/
def singleTargetBody : Reading Expr :=
  memberTarget
  <|> name
  <|> do
    mark "("
    let e ← singleTarget
    mark ")"
    return e

/-- What can be deleted. -/
def deletedBody : Reading Expr :=
  memberTarget
  <|> name
  <|> (do
    mark "("
    let e ← deleted
    mark ")"
    return e)
  <|> spanned (do
    mark "("
    let es ← option (commaList deleted)
    mark ")"
    return fun s => .tuple s (es.getD []))
  <|> spanned (do
    mark "["
    let es ← option (commaList deleted)
    mark "]"
    return fun s => .list s (es.getD []))

/-- A list or a tuple where the target of an annotation should stand. -/
def annotationTargetBody : Reading Expr :=
  list
  <|> tuple
  <|> do
    mark "("
    let e ← annotationTarget
    mark ")"
    return e

end RecordLens.Code.Grammar
