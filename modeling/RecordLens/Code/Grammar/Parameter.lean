import RecordLens.Code.Grammar.Word
/-!
Parameter lists of functions and of `lambda`. The two differ in their annotations and in the mark that
closes them.
-/
namespace RecordLens.Code.Grammar

open Reading

/-- Which kind of parameter list is read. -/
inductive ListStyle
  | function | lambda

/-- What ends the list of parameters. -/
def ListStyle.closing : ListStyle → Reading Unit
  | .function => mark ")"
  | .lambda => mark ":"

/-- A parameter without its default. -/
def ListStyle.param : ListStyle → Reading Param
  | .function => do
    let n ← ident
    let a ← option (do mark ":"; expression)
    return .mk n a none
  | .lambda => do return .mk (← ident) none none

variable (style : ListStyle)

/-- A parameter ends at a comma or before the end of the list. -/
def paramEnd : Reading Unit := comma <|> ahead style.closing

/-- A parameter without a default. -/
def paramPlain : Reading Param :=
  (do
    let p ← style.param
    comma
    return p)
  <|> do
    let p ← style.param
    ahead style.closing
    return p

/-- A starred parameter may be annotated with an unpacked type. -/
def paramStarAnnotated : Reading Param :=
  match style with
  | .lambda => absent
  | .function => do
    let n ← ident
    mark ":"
    let a ← starExpression
    paramEnd style
    return .mk n (some a) none

/-- No value behind the mark of a default. -/
def defaultTrap : Reading Unit := do
  let t ← markToken "="
  ahead (mark ")" <|> comma)
  refuseAt t.span.line

/-- The default of a parameter. -/
def defaultValue : Reading Expr :=
  (do
    mark "="
    expression)
  <|> trap defaultTrap

/-- A parameter with another default. -/
def Param.withDefault (p : Param) (d : Option Expr) : Param := .mk p.name p.type d

/-- A parameter with a default. -/
def paramDefaulted : Reading Param :=
  (do
    let p ← style.param
    let d ← defaultValue
    comma
    return Param.withDefault p (some d))
  <|> do
    let p ← style.param
    let d ← defaultValue
    ahead style.closing
    return Param.withDefault p (some d)

/-- A parameter with or without a default. -/
def paramMaybe : Reading Param :=
  (do
    let p ← style.param
    let d ← option defaultValue
    comma
    return Param.withDefault p d)
  <|> do
    let p ← style.param
    let d ← option defaultValue
    ahead style.closing
    return Param.withDefault p d

/-- Parameters without defaults, up to `/`. -/
def slashPlain : Reading (List Param) :=
  (do
    let ps ← many1 (paramPlain style)
    mark "/"
    comma
    return ps)
  <|> do
    let ps ← many1 (paramPlain style)
    mark "/"
    ahead style.closing
    return ps

/-- Parameters up to `/`, of which the last ones have defaults. -/
def slashDefaulted : Reading (List Param) :=
  (do
    let ps ← many (paramPlain style)
    let qs ← many1 (paramDefaulted style)
    mark "/"
    comma
    return ps ++ qs)
  <|> do
    let ps ← many (paramPlain style)
    let qs ← many1 (paramDefaulted style)
    mark "/"
    ahead style.closing
    return ps ++ qs

/-- Everything from the first star on. -/
structure StarPart where
  variadic : Option Param
  keywordOnly : List Param
  keywords : Option Param

/-- The faults of `**keywords`: a default, or something behind it. -/
def keywordsTrap : Reading Unit :=
  (do
    mark "**"
    let _ ← style.param
    let t ← markToken "="
    refuseAt t.span.line)
  <|> (do
    mark "**"
    let _ ← style.param
    comma
    let line ← nextLine
    let _ ← style.param
    refuseAt line)
  <|> do
    mark "**"
    let _ ← style.param
    comma
    let t ← markToken "*" <|> markToken "**" <|> markToken "/"
    refuseAt t.span.line

/-- `**keywords`. -/
def keywordsParam : Reading Param :=
  trap (keywordsTrap style)
  <|> do
    mark "**"
    paramPlain style

/-- The faults of `*`: nothing that it stands before, or a default. -/
def starTrap : Reading Unit :=
  (do
    let t ← markToken "*"
    style.closing <|> do
      comma
      style.closing <|> mark "**"
    match style with
    | .function => refuseAt t.span.line
    | .lambda => refuseHere)
  <|> (do
    mark "*"
    let _ ← style.param
    let t ← markToken "="
    refuseAt t.span.line)
  <|> do
    mark "*"
    (do let _ ← paramPlain style) <|> comma
    let _ ← many (paramMaybe style)
    let t ← markToken "*"
    (do let _ ← paramPlain style) <|> comma
    refuseAt t.span.line

/-- `*` and the parameters behind it. -/
def starPart : Reading StarPart :=
  trap (starTrap style)
  <|> (do
    mark "*"
    let v ← paramPlain style
    let ks ← many (paramMaybe style)
    let k ← option (keywordsParam style)
    return ⟨some v, ks, k⟩)
  <|> (do
    mark "*"
    let v ← paramStarAnnotated style
    let ks ← many (paramMaybe style)
    let k ← option (keywordsParam style)
    return ⟨some v, ks, k⟩)
  <|> (do
    mark "*"
    comma
    let ks ← many1 (paramMaybe style)
    let k ← option (keywordsParam style)
    return ⟨none, ks, k⟩)
  <|> do
    let k ← keywordsParam style
    return ⟨none, [], some k⟩

/-- The parameters in the order in which they are kept. -/
def buildParams (only both : List Param) (star : Option StarPart) : Params :=
  match star with
  | some s => .mk only both s.variadic s.keywordOnly s.keywords
  | none => .mk only both none [] none

/-- Parameters up to `/`, where they have no place. -/
def slashTrap : Reading Unit := (do let _ ← slashPlain style) <|> do let _ ← slashDefaulted style

/-- The faults of lists of parameters. -/
def paramsTrap : Reading Unit :=
  (do
    let _ ← many (paramPlain style)
    (do let _ ← slashDefaulted style) <|> do let _ ← many1 (paramDefaulted style)
    let line ← nextLine
    let _ ← paramPlain style
    refuseAt line)
  <|> (do
    let _ ← many (paramPlain style)
    let t ← markToken "("
    match style with
    | .function => let _ ← many1 (paramPlain style)
    | .lambda => let _ ← commaSeparated style.param
    let _ ← option comma
    mark ")"
    refuseAt t.span.line)
  <|> (do
    let t ← markToken "/"
    comma
    refuseAt t.span.line)
  <|> (do
    slashTrap style
    let _ ← many (paramMaybe style)
    let t ← markToken "/"
    refuseAt t.span.line)
  <|> (do
    let _ ← option (slashTrap style)
    let _ ← many (paramMaybe style)
    mark "*"
    comma <|> do let _ ← paramPlain style
    let _ ← many (paramMaybe style)
    let t ← markToken "/"
    refuseAt t.span.line)
  <|> do
    let _ ← many1 (paramMaybe style)
    mark "/"
    let t ← markToken "*"
    refuseAt t.span.line

/-- A list of parameters. -/
def params : Reading Params :=
  trap (paramsTrap style)
  <|> (do
    let only ← slashPlain style
    let ps ← many (paramPlain style)
    let ds ← many (paramDefaulted style)
    let star ← option (starPart style)
    return buildParams only (ps ++ ds) star)
  <|> (do
    let only ← slashDefaulted style
    let ds ← many (paramDefaulted style)
    let star ← option (starPart style)
    return buildParams only ds star)
  <|> (do
    let ps ← many1 (paramPlain style)
    let ds ← many (paramDefaulted style)
    let star ← option (starPart style)
    return buildParams [] (ps ++ ds) star)
  <|> (do
    let ds ← many1 (paramDefaulted style)
    let star ← option (starPart style)
    return buildParams [] ds star)
  <|> do
    let star ← starPart style
    return buildParams [] [] (some star)

end RecordLens.Code.Grammar
