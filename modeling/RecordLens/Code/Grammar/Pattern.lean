import RecordLens.Code.Grammar.Display
/-!
The patterns of `match` statements. They declare nothing, so only their places are kept.
-/
namespace RecordLens.Code.Grammar

open Reading

/-- The place of what a reader takes. -/
def placed {α : Type} (p : Reading α) : Reading Span := spanned do
  let _ ← p
  return id

/-! ## Literals -/

/-- A number of the kind that `isImaginary` asks for. -/
def numberOfKind (isImaginary : Bool) : Reading Unit := do
  let e ← number
  match e with
  | .literal s (.imaginary _) => if isImaginary then return () else refuseAt s.line
  | e => if isImaginary then refuseAt e.line else return ()

/-- A number, perhaps with a minus. -/
def signedNumber : Reading Unit :=
  (do let _ ← number) <|> do
    mark "-"
    let _ ← number

/-- A real part and an imaginary one. -/
def complexNumber : Reading Unit := do
  numberOfKind false <|> do
    mark "-"
    numberOfKind false
  mark "+" <|> mark "-"
  numberOfKind true

/-- A value that is written out. -/
def literalPattern : Reading Unit :=
  (do
    signedNumber
    notAhead (mark "+" <|> mark "-"))
  <|> complexNumber
  <|> (do let _ ← strings)
  <|> word "None" <|> word "True" <|> word "False"

/-! ## Names -/

/-- The name that a value is given, if it is not a part of another pattern. -/
def captureTarget : Reading Unit := do
  notAhead (word "_")
  let _ ← nameToken
  notAhead (mark "." <|> mark "(" <|> mark "=")

/-- `a` or `a.b.c`. -/
def nameOrDotted : Reading Span := dottedPattern <|> placed nameToken

/-- `a.b.c`. -/
def dottedPatternBody : Reading Span := placed do
  let _ ← nameOrDotted
  mark "."
  let _ ← nameToken

/-- The value of `a.b.c`, if it is not the start of another pattern. -/
def valuePattern : Reading Unit := do
  let _ ← dottedPattern
  notAhead (mark "." <|> mark "(" <|> mark "=")

/-! ## Alternatives -/

/-- `p | q | …`. -/
def orPattern : Reading Span := placed (separated (mark "|") closedPattern)

/-- The faults of `p as name`: no name there, or the one that stands for nothing. -/
def asTrap : Reading Unit :=
  (do
    let _ ← orPattern
    word "as"
    let t ← wordToken "_"
    refuseAt t.span.line)
  <|> do
    let _ ← orPattern
    word "as"
    notAhead nameToken
    let e ← expression
    refuseAt e.line

/-- A pattern, perhaps with a name for what fits it. -/
def pattern : Reading Span :=
  placed (do
    let _ ← orPattern
    word "as"
    captureTarget)
  <|> trap asTrap
  <|> orPattern

/-! ## Sequences, mappings and classes -/

/-- `*rest` in a sequence. -/
def starPatternBody : Reading Span :=
  placed (do
    mark "*"
    captureTarget)
  <|> placed (do
    mark "*"
    word "_")

/-- An item of a sequence. -/
def itemPattern : Reading Span := starPattern <|> pattern

/-- The items of a sequence. -/
def itemPatterns : Reading (List Span) := commaList itemPattern

/-- A sequence without brackets, which needs a comma. -/
def openSequence : Reading Unit := do
  let _ ← itemPattern
  comma
  let _ ← option itemPatterns

/-- A sequence in brackets. -/
def sequencePattern : Reading Unit :=
  (do
    mark "["
    let _ ← option itemPatterns
    mark "]")
  <|> do
    mark "("
    let _ ← option openSequence
    mark ")"

/-- A pattern in brackets. -/
def groupPattern : Reading Unit := do
  mark "("
  let _ ← pattern
  mark ")"

/-- `**rest` in a mapping. -/
def restPattern : Reading Unit := do
  mark "**"
  captureTarget

/-- `key: pattern` in a mapping. -/
def pairPattern : Reading Unit := do
  literalPattern <|> do let _ ← dottedPattern
  mark ":"
  let _ ← pattern

/-- A mapping, with `**rest` at its end or without. -/
def mappingPattern : Reading Unit :=
  (do
    mark "\x7b"
    mark "\x7d")
  <|> (do
    mark "\x7b"
    restPattern
    let _ ← option comma
    mark "\x7d")
  <|> (do
    mark "\x7b"
    let _ ← commaSeparated pairPattern
    comma
    restPattern
    let _ ← option comma
    mark "\x7d")
  <|> do
    mark "\x7b"
    let _ ← commaSeparated pairPattern
    let _ ← option comma
    mark "\x7d"

/-- The patterns of a class that are given by position. -/
def positionalPatterns : Reading (List Span) := commaSeparated pattern

/-- `name=pattern`. -/
def namedPattern : Reading Unit := do
  let _ ← nameToken
  mark "="
  let _ ← pattern

/-- The patterns of a class that are given by name. -/
def namedPatterns : Reading Unit := do let _ ← commaSeparated namedPattern

/-- The fault of a pattern by position behind one by name. -/
def classTrap : Reading Unit := do
  let _ ← nameOrDotted
  mark "("
  let _ ← option (do
    let _ ← positionalPatterns
    comma)
  namedPatterns
  comma
  let ps ← positionalPatterns
  refuseAt ((ps.head?.map (·.line)).getD 0)

/-- `Class(p, name=q)`. -/
def classPattern : Reading Unit :=
  (do
    let _ ← nameOrDotted
    mark "("
    mark ")")
  <|> (do
    let _ ← nameOrDotted
    mark "("
    let _ ← positionalPatterns
    let _ ← option comma
    mark ")")
  <|> (do
    let _ ← nameOrDotted
    mark "("
    namedPatterns
    let _ ← option comma
    mark ")")
  <|> (do
    let _ ← nameOrDotted
    mark "("
    let _ ← positionalPatterns
    comma
    namedPatterns
    let _ ← option comma
    mark ")")
  <|> trap classTrap

/-- A pattern that can stand between bars. -/
def closedPatternBody : Reading Span :=
  placed (literalPattern
    <|> captureTarget
    <|> word "_"
    <|> valuePattern
    <|> groupPattern
    <|> sequencePattern
    <|> mappingPattern
    <|> classPattern)

/-- The pattern of a `case`. -/
def casePattern : Reading Unit := openSequence <|> do let _ ← pattern

end RecordLens.Code.Grammar
