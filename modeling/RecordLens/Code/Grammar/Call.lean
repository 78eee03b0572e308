import RecordLens.Code.Grammar.Clause
/-!
The arguments of calls: positional ones, and then named and unpacked ones.
-/
namespace RecordLens.Code.Grammar

open Reading

/-- An argument behind the first named one: named or unpacked, or starred. -/
inductive LateArgument
  | keyword (k : Keyword)
  | starred (e : Expr)

/-- The argument, if it is given by name. -/
def LateArgument.keyword? : LateArgument → Option Keyword
  | .keyword k => some k
  | .starred _ => none

/-- The argument, if it has a star. -/
def LateArgument.starred? : LateArgument → Option Expr
  | .keyword _ => none
  | .starred e => some e

/-- The faults of `name=value`: something that is no name, or a value that is no expression. -/
def keywordTrap : Reading Unit :=
  (do
    let t ← wordToken "True" <|> wordToken "False" <|> wordToken "None"
    mark "="
    refuseAt t.span.line)
  <|> (do
    let t ← nameToken
    mark "="
    let _ ← expression
    let _ ← forClauses
    refuseAt t.span.line)
  <|> (do
    notAhead (do let _ ← nameToken; mark "=")
    let e ← expression
    mark "="
    refuseAt e.line)

/-- `name=value`. -/
def namedArgument : Reading LateArgument := do
  let n ← ident
  mark "="
  let e ← expression
  return .keyword (.mk (some n) e)

/-- `name=value` or `*values`. -/
def namedOrStarred : Reading LateArgument :=
  trap keywordTrap
  <|> namedArgument
  <|> do return .starred (← starredExpression)

/-- `name=value` or `**mapping`. -/
def namedOrUnpacked : Reading LateArgument :=
  trap keywordTrap
  <|> namedArgument
  <|> do
    mark "**"
    let e ← expression
    return .keyword (.mk none e)

/-- The arguments from the first one by name on. -/
def lateArguments : Reading (List LateArgument) :=
  (do
    let a ← commaSeparated namedOrStarred
    comma
    let b ← commaSeparated namedOrUnpacked
    return a ++ b)
  <|> commaSeparated namedOrStarred
  <|> commaSeparated namedOrUnpacked

/-- An argument before the first named one. -/
def earlyArgument : Reading Expr :=
  starredExpression
  <|> do
    let e ← assignmentExpression <|> plainExpression
    notAhead (mark "=")
    return e

/-- The arguments of a call, those by position before the others. -/
def argumentList : Reading Arguments := do
  let line ← nextLine
  (do
    let early ← commaSeparated earlyArgument
    let late ← option (do comma; lateArguments)
    let late := late.getD []
    return ⟨line, early ++ late.filterMap (·.starred?), late.filterMap (·.keyword?)⟩)
  <|> do
    let late ← lateArguments
    return ⟨line, late.filterMap (·.starred?), late.filterMap (·.keyword?)⟩

/-- The faults of the arguments of a call. -/
def argumentsTrap : Reading Unit :=
  (do
    let a ← argumentList
    comma
    mark "*"
    refuseAt a.line)
  <|> (do
    let e ← expression
    let _ ← forClauses
    comma
    let _ ← option ((do let _ ← argumentList) <|> do
      let _ ← expression
      let _ ← forClauses)
    refuseAt e.line)
  <|> (do
    let t ← nameToken
    mark "="
    let _ ← expression
    let _ ← forClauses
    refuseAt t.span.line)
  <|> commit (do
      let a ← argumentList
      let _ ← forClauses
      return a)
    (fun a =>
      -- a single argument may be a comprehension without brackets of its own
      match a.args with
      | [] | [_] => absent
      | args => refuseAt ((args.getLast?.map Expr.line).getD a.line))
    ((do
      let _ ← argumentList
      comma
      let e ← expression
      let _ ← forClauses
      refuseAt e.line)
    <|> do
      let _ ← argumentList
      comma
      let _ ← argumentList
      refuseHere)

/-- What stands in the brackets of a call. -/
def argumentsBody : Reading Arguments :=
  (do
    let a ← argumentList
    let _ ← option comma
    ahead (mark ")")
    return a)
  <|> trap argumentsTrap

end RecordLens.Code.Grammar
