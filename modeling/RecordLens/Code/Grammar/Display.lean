import RecordLens.Code.Grammar.Call
/-!
Brackets: groups, tuples, lists, sets, dictionaries and their comprehensions, and the slices of
subscripts.
-/
namespace RecordLens.Code.Grammar

open Reading

/-! ## Comprehensions -/

/-- The faults of comprehensions: a starred item, or several of them. -/
def comprehensionTrap : Reading Unit :=
  (do
    mark "[" <|> mark "(" <|> mark "\x7b"
    let e ← starredExpression
    let _ ← forClauses
    refuseAt e.line)
  <|> (do
    mark "[" <|> mark "\x7b"
    let e ← starNamedExpression
    comma
    let _ ← starNamedExpressions
    let _ ← forClauses
    refuseAt e.line)
  <|> do
    mark "[" <|> mark "\x7b"
    let e ← starNamedExpression
    comma
    let _ ← forClauses
    refuseAt e.line

/-- A comprehension in the given brackets. -/
def comprehension (opening closing : String) (item : Reading Expr)
    (build : Span → Expr → List Clause → Expr) : Reading Expr :=
  spanned (do
    mark opening
    let e ← item
    let cs ← forClauses
    mark closing
    return fun s => build s e cs)
  <|> trap comprehensionTrap

/-- `(item for …)`. -/
def generator : Reading Expr :=
  comprehension "(" ")" (assignmentExpression <|> plainExpression) .generator

/-- `[item for …]`. -/
def listComprehension : Reading Expr := comprehension "[" "]" namedExpression .listOf

/-- A comprehension in braces, with single items. -/
def setComprehension : Reading Expr := comprehension "\x7b" "\x7d" namedExpression .setOf

/-! ## Dictionaries -/

/-- `key: value`. -/
def keyValue : Reading (Expr × Expr) := do
  let k ← expression
  mark ":"
  let v ← expression
  return (k, v)

/-- `key: value` or `**mapping`. -/
def dictItem : Reading DictItem :=
  (do
    mark "**"
    let e ← bitOr
    return .spread e)
  <|> do
    let (k, v) ← keyValue
    return .pair k v

/-- The faults of the last item of a dictionary. -/
def keyValueTrap : Reading Unit :=
  (do
    let e ← expression
    notAhead (mark ":")
    refuseAt e.line)
  <|> (do
    let _ ← expression
    mark ":"
    let t ← markToken "*"
    let _ ← bitOr
    refuseAt t.span.line)
  <|> do
    let _ ← expression
    let t ← markToken ":"
    ahead (mark "\x7d" <|> comma)
    refuseAt t.span.line

/-- The faults of the items of a dictionary. -/
def dictItemsTrap : Reading Unit :=
  (do
    let _ ← commaSeparated dictItem
    comma
    keyValueTrap)
  <|> (do
    let _ ← expression
    mark ":"
    let t ← markToken "*"
    let _ ← bitOr
    refuseAt t.span.line)
  <|> do
    let _ ← expression
    let t ← markToken ":"
    ahead (mark "\x7d" <|> comma)
    refuseAt t.span.line

/-- A dictionary. One with a fault in it is explained, and is none. -/
def dict : Reading Expr :=
  spanned (do
    mark "\x7b"
    let items ← option (commaList dictItem)
    mark "\x7d"
    return fun s => .dict s (items.getD []))
  <|> do
    mark "\x7b"
    dictItemsTrap
    absent

/-- The fault of `**mapping` in a comprehension. -/
def dictComprehensionTrap : Reading Unit := do
  mark "\x7b"
  let t ← markToken "**"
  let _ ← bitOr
  let _ ← forClauses
  mark "\x7d"
  refuseAt t.span.line

/-- A comprehension in braces, with keys and values. -/
def dictComprehension : Reading Expr :=
  spanned (do
    mark "\x7b"
    let (k, v) ← keyValue
    let cs ← forClauses
    mark "\x7d"
    return fun s => .dictOf s k v cs)
  <|> trap dictComprehensionTrap

/-! ## Other brackets -/

/-- A set. -/
def set : Reading Expr := spanned do
  mark "\x7b"
  let items ← starNamedExpressions
  mark "\x7d"
  return fun s => .set s items

/-- `[a, *b, …]`. -/
def list : Reading Expr := spanned do
  mark "["
  let items ← option starNamedExpressions
  mark "]"
  return fun s => .list s (items.getD [])

/-- A tuple in brackets. -/
def tuple : Reading Expr := spanned do
  mark "("
  let items ← option do
    let a ← starNamedExpression
    comma
    let bs ← option starNamedExpressions
    return a :: bs.getD []
  mark ")"
  return fun s => .tuple s (items.getD [])

/-- The faults of a group: a starred value alone in brackets. -/
def groupTrap : Reading Unit :=
  (do
    mark "("
    let e ← starredExpression
    mark ")"
    refuseAt e.line)
  <|> do
    mark "("
    let t ← markToken "**"
    let _ ← expression
    mark ")"
    refuseAt t.span.line

/-- An expression in brackets, which keeps its own place. -/
def group : Reading Expr :=
  (do
    mark "("
    let e ← yieldExpression <|> namedExpression
    mark ")"
    return e)
  <|> trap groupTrap

/-! ## Slices -/

/-- `lower:upper:step` or an index. -/
def slice : Reading Expr :=
  spanned (do
    let lower ← option expression
    mark ":"
    let upper ← option expression
    let step ← option (do mark ":"; option expression)
    return fun s => .slice s lower upper (step.getD none))
  <|> namedExpression

/-- What stands in the brackets of a subscript. -/
def slices : Reading Expr :=
  (do
    let e ← slice
    notAhead comma
    return e)
  <|> spanned (do
    let es ← commaList (slice <|> starredExpression)
    return fun s => .tuple s es)

/-! ## Strings -/

/-- The parts of a string made of several tokens, as far as they have been joined. -/
structure Joined where
  /-- Pieces of formatted strings and text, the last first. -/
  pieces : List Piece
  bytes : List Nat
  formatted : Bool

/-- Join texts that stand side by side. -/
def joinText : List Piece → List Piece
  | [] => []
  | .text a :: rest =>
    match joinText rest with
    | .text b :: more => .text (a ++ b) :: more
    | more => if a.isEmpty then more else .text a :: more
  | piece :: rest => piece :: joinText rest

/-- Join one more string token. -/
def joinToken (isBytes : Bool) (joined : Joined) (t : Token) : Reading Joined := fun e i n =>
  let form := StringForm.ofToken t.text
  let here : Reading Joined := refuseHere
  -- tokens of bytes and of text do not mix, but each must be sound by itself first
  let mixed := (form.kind = .bytes) ≠ isBytes
  match form.kind with
  | .bytes =>
    if form.body.any (128 ≤ ·.toNat) then refuseAt t.span.line e i n
    else match bytesValues form.raw form.body with
      | none => here e i n
      | some bs => if mixed then here e i n else .found { joined with bytes := joined.bytes ++ bs } i n
  | .text =>
    match textPoints form.raw form.body with
    | none => here e i n
    | some ps =>
      if mixed then here e i n
      else .found { joined with pieces := joined.pieces ++ [.text ps] } i n
  | .formatted =>
    if mixed then here e i n
    else match formattedPieces e.readField form.raw t.span.endLine form.body with
      | .ok pieces =>
        .found { joined with pieces := joined.pieces ++ pieces, formatted := true } i n
      | .error .malformed => here e i n
      | .error (.inField fault) => .fault fault n

/-- Join the tokens of a string, one after the other. -/
def joinTokens (isBytes : Bool) : List Token → Joined → Reading Joined
  | [], joined => return joined
  | t :: ts, joined => do joinTokens isBytes ts (← joinToken isBytes joined t)

/-- A string, of one token or of several. -/
def stringsBody : Reading Expr := spanned do
  let tokens ← many1 (kindToken .string)
  let first := StringForm.ofToken ((tokens.head?.map (·.text)).getD "")
  let isBytes : Bool := first.kind = .bytes
  let joined ← joinTokens isBytes tokens ⟨[], [], false⟩
  return fun s =>
    if joined.formatted then .formatted s (joinText joined.pieces)
    else if isBytes then .literal s (.bytes joined.bytes)
    else match joinText joined.pieces with
      | .text ps :: _ => .literal s (.text ps first.marked)
      | _ => .literal s (.text [] first.marked)

/-! ## Atoms -/

/-- A number. -/
def number : Reading Expr := do
  let t ← kindToken .number
  match numberValue t.text with
  | some value => return .literal t.span value
  | none => refuseAt t.span.line

/-- A word or a mark that stands for a value. -/
def constant (p : Reading Token) (value : Literal) : Reading Expr := do
  let t ← p
  return .literal t.span value

/-- An expression that nothing can take apart. The first token decides what it can be. -/
def atom : Reading Expr :=
  name
  <|> constant (wordToken "True") (.bool true)
  <|> constant (wordToken "False") (.bool false)
  <|> constant (wordToken "None") .none
  <|> (do ahead (kind .string); strings)
  <|> number
  <|> (do ahead (mark "("); tuple <|> group <|> generator)
  <|> (do ahead (mark "["); list <|> listComprehension)
  <|> (do ahead (mark "\x7b"); dict <|> set <|> dictComprehension <|> setComprehension)
  <|> constant (markToken "...") .ellipsis

end RecordLens.Code.Grammar
