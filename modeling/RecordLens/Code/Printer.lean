import RecordLens.Code.Expr
import RecordLens.Decimal.Shortest
import RecordLens.Text.Quoted
/-!
The canonical text of an expression: one spelling for each value, single spaces, and only the
brackets that the levels of the operators ask for.

* `Literal.write`: the text of a literal.
* `textBody`, `joinPieces`: how text is quoted where a backslash is better avoided.
* `Expr.write`: the text of an expression inside another one; `Expr.text`: on its own.
-/
namespace RecordLens.Code

/-- Why an expression has no canonical text. -/
inductive PrintFault
  /-- A replacement field of a formatted string would need a backslash. -/
  | backslashInField
  /-- A whole number has more digits than are written. -/
  | longNumber
deriving DecidableEq, Repr, Inhabited

/-! ## Levels -/

/-- How tightly a form of expression binds; an operand is bracketed when its form binds less tightly
    than its place asks for. -/
abbrev Level := Nat

namespace Level

def assignment : Level := 1
def tuple : Level := 2
def yield : Level := 3
def test : Level := 4
def disj : Level := 5
def conj : Level := 6
def negation : Level := 7
def compare : Level := 8
def operand : Level := 9
def bitXor : Level := 10
def bitAnd : Level := 11
def shift : Level := 12
def sum : Level := 13
def product : Level := 14
def factor : Level := 15
def power : Level := 16
def await : Level := 17
def atom : Level := 18

/-- The next tighter level. -/
def next (l : Level) : Level := min (l + 1) atom

end Level

/-- The text of an operator with one operand. -/
def SignOp.text : SignOp → String
  | .plus => "+" | .minus => "-" | .invert => "~" | .negation => "not "

/-- The level of what such an operator makes. -/
def SignOp.level : SignOp → Level
  | .negation => .negation
  | _ => .factor

/-- The text of an operator with two operands. -/
def BinaryOp.text : BinaryOp → String
  | .add => "+" | .sub => "-" | .mul => "*" | .matMul => "@" | .div => "/" | .floorDiv => "//"
  | .mod => "%" | .pow => "**" | .shiftLeft => "<<" | .shiftRight => ">>" | .bitOr => "|"
  | .bitXor => "^" | .bitAnd => "&"

/-- The level of what such an operator makes, which its left operand must have as well. -/
def BinaryOp.level : BinaryOp → Level
  | .add | .sub => .sum
  | .mul | .matMul | .div | .floorDiv | .mod => .product
  | .pow => .power
  | .shiftLeft | .shiftRight => .shift
  | .bitOr => .operand
  | .bitXor => .bitXor
  | .bitAnd => .bitAnd

/-- The level asked of the left operand: powers group to the right, all else to the left. -/
def BinaryOp.leftLevel : BinaryOp → Level
  | .pow => Level.power.next
  | op => op.level

/-- The level that the right operand must have. -/
def BinaryOp.rightLevel : BinaryOp → Level
  | .pow => .power
  | op => op.level.next

/-- The text of an operator between truth values. -/
def LogicOp.text : LogicOp → String
  | .conj => " and " | .disj => " or "

/-- The level of what such an operator makes. -/
def LogicOp.level : LogicOp → Level
  | .conj => .conj | .disj => .disj

/-- The text of a comparison. -/
def CompareOp.text : CompareOp → String
  | .eq => "==" | .ne => "!=" | .lt => "<" | .le => "<=" | .gt => ">" | .ge => ">="
  | .is => "is" | .isNot => "is not" | .isIn => "in" | .notIn => "not in"

/-- Bracket `text` if `condition` holds. -/
def bracketIf (condition : Bool) (text : String) : String :=
  if condition then "(" ++ text ++ ")" else text

/-- The items of a tuple; a single one is followed by a comma. -/
def tupleText : List String → String
  | [item] => item ++ ","
  | items => String.intercalate ", " items

/-! ## Quoting with few backslashes -/

open Text (points ofPoints quoted numericEscape backslash singleQuote doubleQuote)

/-- The four ways of quoting, the preferred ones first. -/
def allQuotes : List (List Nat) :=
  [[singleQuote], [doubleQuote], [doubleQuote, doubleQuote, doubleQuote],
   [singleQuote, singleQuote, singleQuote]]

/-- Whether code points stand somewhere within others. -/
def isInfix (part : List Nat) : List Nat → Bool
  | [] => part.isEmpty
  | p :: ps => part.isPrefixOf (p :: ps) || isInfix part ps

/-- Escape what cannot be shown; line feeds and tabs stay unless `escapeSpace`. -/
def escapeUnshown (escapeSpace : Bool) (ps : List Nat) : List Nat :=
  ps.flatMap fun p =>
    if !escapeSpace && (p = 10 || p = 9) then [p]
    else if p = backslash || !Text.isPrintable p then Text.escapePoint p
    else [p]

/-- Put the quotes first that do not begin like the end of the text. -/
def preferQuotes (last : Nat) (quotes : List (List Nat)) : List (List Nat) :=
  quotes.filter (·.head? ≠ some last) ++ quotes.filter (·.head? = some last)

/-- The inside of a quoted text together with the quotes of `quotes` that suit it. When none does,
    the text is escaped as in its quoted form. -/
def textBody (quotes : List (List Nat)) (escapeSpace : Bool) (ps : List Nat) :
    List Nat × List (List Nat) :=
  let body := escapeUnshown escapeSpace ps
  let fitting := quotes.filter fun q => (q.length = 3 || !body.contains 10) && !isInfix q body
  match fitting, body.getLast? with
  | [], _ =>
    let form := quoted ps
    let mark := form.headD singleQuote
    let quote := (quotes.find? (·.contains mark)).getD [mark]
    ((form.drop 1).dropLast, [quote])
  | _, none => (body, fitting)
  | _, some last =>
    let fitting := preferQuotes last fitting
    match fitting with
    | (q :: _) :: _ => if q = last then (body.dropLast ++ [backslash, last], fitting) else (body, fitting)
    | _ => (body, fitting)

/-- A text between the first quotes that suit it. -/
def plainText (ps : List Nat) : List Nat :=
  let (body, quotes) := textBody allQuotes false ps
  let quote := quotes.headD [singleQuote]
  quote ++ body ++ quote

/-- Quote the written pieces of a formatted string one after the other, each with the quotes that
    the pieces before it left over; `none` when they leave none. -/
def bodies (quotes : List (List Nat)) : List (List Nat × Bool) → Option (List Nat × List (List Nat))
  | [] => some ([], quotes)
  | (ps, isText) :: rest =>
    let (body, fitting) := textBody quotes isText ps
    if fitting.any quotes.contains then
      (bodies fitting rest).map fun (tail, quotes) => (body ++ tail, quotes)
    else none

/-- A formatted string from its written pieces; those that are text are marked. -/
def joinPieces (pieces : List (List Nat × Bool)) : List Nat :=
  match bodies allQuotes pieces with
  | some (body, quotes) =>
    let quote := quotes.headD [singleQuote]
    quote ++ body ++ quote
  | none =>
    let quote := [singleQuote, singleQuote, singleQuote]
    let body := pieces.flatMap fun (ps, _) => ((quoted (doubleQuote :: ps)).drop 2).dropLast
    quote ++ body ++ quote

/-- In the text of a formatted string a brace is written twice. -/
def doubleBraces (ps : List Nat) : List Nat :=
  ps.flatMap fun p => if p = 123 || p = 125 then [p, p] else [p]

/-! ## Literals -/

/-- The most digits a whole number is written with. -/
def mostDigits : Nat := 4300

/-- The text of a literal; `avoid` asks for a spelling without backslashes. -/
def Literal.write (avoid : Bool) : Literal → Except PrintFault String
  | .none => .ok "None"
  | .bool true => .ok "True"
  | .bool false => .ok "False"
  | .ellipsis => .ok "..."
  | .int n =>
    let digits := Decimal.natDigits n
    if mostDigits < digits.length then .error .longNumber else .ok (String.ofList digits)
  | .real x => .ok (x.text .real)
  | .imaginary x => .ok (x.text .imaginary ++ "j")
  | .text ps marked =>
    .ok ((if marked then "u" else "") ++ ofPoints (if avoid then plainText ps else quoted ps))
  | .bytes bs => .ok (ofPoints (Text.quotedBytes bs))

/-- Literals that take a space before a point, as a whole number would swallow it. -/
def Literal.needsSpace : Literal → Bool
  | .int _ | .bool _ => true
  | _ => false

/-- A replacement field around the text of its expression. -/
def fieldText (value : String) (conversion : Option Char) (format : Option (List Nat)) :
    Except PrintFault (List Nat) :=
  let ps := points value
  if ps.contains backslash then .error .backslashInField
  else
    let space := if ps.head? = some 123 then [32] else []
    let mark := match conversion with
      | some c => [33, c.toNat]
      | none => []
    let spec := match format with
      | some spec => 58 :: spec
      | none => []
    .ok (123 :: space ++ ps ++ mark ++ spec ++ [125])

/-! ## Expressions -/

mutual

/-- The text of an expression in a place of the given level. -/
def Expr.write (avoid : Bool) (level : Level) : Expr → Except PrintFault String
  | .name _ id => .ok id
  | .literal _ value => value.write avoid
  | .attribute _ value attr => do
    let text ← value.write avoid .atom
    let space := match value with
      | .literal _ l => if l.needsSpace then " " else ""
      | _ => ""
    return text ++ space ++ "." ++ attr
  | .subscript _ value (.tuple _ items) => do
    let text ← value.write avoid .atom
    let texts ← writeEach avoid .test items
    return text ++ "[" ++ bracketIf items.isEmpty (tupleText texts) ++ "]"
  | .subscript _ value index => do
    let text ← value.write avoid .atom
    let inner ← index.write avoid .test
    return text ++ "[" ++ inner ++ "]"
  | .starred _ value => do return "*" ++ (← value.write avoid .operand)
  | .call _ func args keywords => do
    let text ← func.write avoid .atom
    let args ← writeEach avoid .test args
    let keywords ← writeKeywords avoid keywords
    return text ++ "(" ++ String.intercalate ", " (args ++ keywords) ++ ")"
  | .sign _ op operand => do
    return bracketIf (op.level < level) (op.text ++ (← operand.write avoid op.level))
  | .binary _ left op right => do
    let l ← left.write avoid op.leftLevel
    let r ← right.write avoid op.rightLevel
    return bracketIf (op.level < level) (l ++ " " ++ op.text ++ " " ++ r)
  | .logic _ op operands => do
    let texts ← writeRising avoid op.level operands
    return bracketIf (op.level < level) (String.intercalate op.text texts)
  | .compare _ left rest => do
    let l ← left.write avoid .operand
    let r ← writeComparisons avoid rest
    return bracketIf (Level.compare < level) (l ++ r)
  | .choice _ body test orElse => do
    let b ← body.write avoid .disj
    let t ← test.write avoid .disj
    let e ← orElse.write avoid .test
    return bracketIf (Level.test < level) (b ++ " if " ++ t ++ " else " ++ e)
  | .lambda _ params body => do
    let ps ← params.write avoid
    let b ← body.write avoid .test
    return bracketIf (Level.test < level)
      ("lambda" ++ (if ps.isEmpty then "" else " ") ++ ps ++ ": " ++ b)
  | .assignment _ target value => do
    let t ← target.write avoid .atom
    let v ← value.write avoid .atom
    return bracketIf (Level.assignment < level) (t ++ " := " ++ v)
  | .tuple _ items => do
    let texts ← writeEach avoid .test items
    return bracketIf (items.isEmpty || Level.tuple < level) (tupleText texts)
  | .list _ items => do return "[" ++ String.intercalate ", " (← writeEach avoid .test items) ++ "]"
  | .set _ items => do return "\x7b" ++ String.intercalate ", " (← writeEach avoid .test items) ++ "\x7d"
  | .dict _ items => do
    return "\x7b" ++ String.intercalate ", " (← writeDictItems avoid items) ++ "\x7d"
  | .listOf _ item clauses => do
    return "[" ++ (← item.write avoid .test) ++ (← writeClauses avoid clauses) ++ "]"
  | .setOf _ item clauses => do
    return "\x7b" ++ (← item.write avoid .test) ++ (← writeClauses avoid clauses) ++ "\x7d"
  | .dictOf _ key value clauses => do
    let k ← key.write avoid .test
    let v ← value.write avoid .test
    return "\x7b" ++ k ++ ": " ++ v ++ (← writeClauses avoid clauses) ++ "\x7d"
  | .generator _ item clauses => do
    return "(" ++ (← item.write avoid .test) ++ (← writeClauses avoid clauses) ++ ")"
  | .await _ value => do
    return bracketIf (Level.await < level) ("await " ++ (← value.write avoid .atom))
  | .yield _ none => .ok (bracketIf (Level.yield < level) "yield")
  | .yield _ (some value) => do
    return bracketIf (Level.yield < level) ("yield " ++ (← value.write avoid .atom))
  | .yieldFrom _ value => do
    return bracketIf (Level.yield < level) ("yield from " ++ (← value.write avoid .atom))
  | .slice _ lower upper step => do
    let l ← writeOption avoid "" lower
    let u ← writeOption avoid "" upper
    let s ← writeOption avoid ":" step
    return l ++ ":" ++ u ++ s
  | .formatted _ pieces => do
    let written ← writePieces pieces
    if avoid then return "f" ++ ofPoints (plainText (written.flatMap (·.1)))
    else return "f" ++ ofPoints (joinPieces written)

/-- The texts of several expressions. -/
def writeEach (avoid : Bool) (level : Level) : List Expr → Except PrintFault (List String)
  | [] => .ok []
  | e :: es => do
    let text ← e.write avoid level
    return text :: (← writeEach avoid level es)

/-- The operands of `and` and `or`: each asks for a tighter level than the one before. -/
def writeRising (avoid : Bool) (level : Level) : List Expr → Except PrintFault (List String)
  | [] => .ok []
  | e :: es => do
    let text ← e.write avoid level.next
    return text :: (← writeRising avoid level.next es)

/-- An expression with a text in front of it, or nothing. -/
def writeOption (avoid : Bool) (before : String) : Option Expr → Except PrintFault String
  | none => .ok ""
  | some e => do return before ++ (← e.write avoid .test)

/-- The arguments that are given by name. -/
def writeKeywords (avoid : Bool) : List Keyword → Except PrintFault (List String)
  | [] => .ok []
  | .mk name value :: rest => do
    let text ← value.write avoid .test
    let text := match name with
      | some name => name ++ "=" ++ text
      | none => "**" ++ text
    return text :: (← writeKeywords avoid rest)

/-- The comparisons behind the first operand. -/
def writeComparisons (avoid : Bool) : List Comparison → Except PrintFault String
  | [] => .ok ""
  | .mk op right :: rest => do
    let text ← right.write avoid .operand
    return " " ++ op.text ++ " " ++ text ++ (← writeComparisons avoid rest)

/-- The items of a dictionary. -/
def writeDictItems (avoid : Bool) : List DictItem → Except PrintFault (List String)
  | [] => .ok []
  | .pair key value :: rest => do
    let k ← key.write avoid .test
    let v ← value.write avoid .test
    return (k ++ ": " ++ v) :: (← writeDictItems avoid rest)
  | .spread value :: rest => do
    let v ← value.write avoid .operand
    return ("**" ++ v) :: (← writeDictItems avoid rest)

/-- The clauses of a comprehension. -/
def writeClauses (avoid : Bool) : List Clause → Except PrintFault String
  | [] => .ok ""
  | .mk isAsync target iter conditions :: rest => do
    let t ← target.write avoid .tuple
    let i ← iter.write avoid .disj
    let cs ← writeEach avoid .disj conditions
    let text := (if isAsync then " async for " else " for ") ++ t ++ " in " ++ i ++
      String.join (cs.map (" if " ++ ·))
    return text ++ (← writeClauses avoid rest)

/-- A parameter with its type and its default. -/
def Param.write (avoid : Bool) : Param → Except PrintFault String
  | .mk name type default => do
    let a ← writeOption avoid ": " type
    let d ← writeOption avoid "=" default
    return name ++ a ++ d

/-- The texts of several parameters. -/
def writeParams (avoid : Bool) : List Param → Except PrintFault (List String)
  | [] => .ok []
  | p :: ps => do
    let text ← p.write avoid
    return text :: (← writeParams avoid ps)

/-- A parameter with a mark in front of it, or nothing. -/
def writeParam (avoid : Bool) (mark : String) : Option Param → Except PrintFault (List String)
  | none => .ok []
  | some p => do return [mark ++ (← p.write avoid)]

/-- A list of parameters. -/
def Params.write (avoid : Bool) : Params → Except PrintFault String
  | .mk positionalOnly positional variadic keywordOnly keywords => do
    let only ← writeParams avoid positionalOnly
    let both ← writeParams avoid positional
    let star ← writeParam avoid "*" variadic
    let named ← writeParams avoid keywordOnly
    let rest ← writeParam avoid "**" keywords
    let slash := if only.isEmpty then [] else ["/"]
    let star := if star.isEmpty && !named.isEmpty then ["*"] else star
    return String.intercalate ", " (only ++ slash ++ both ++ star ++ named ++ rest)

/-- The pieces of a formatted string; the pieces that are text are marked. -/
def writePieces : List Piece → Except PrintFault (List (List Nat × Bool))
  | [] => .ok []
  | .text ps :: rest => do return (doubleBraces ps, true) :: (← writePieces rest)
  | .field value conversion :: rest => do
    let v ← value.write true .disj
    let text ← fieldText v conversion none
    return (text, false) :: (← writePieces rest)
  | .fieldWith value conversion format :: rest => do
    let v ← value.write true .disj
    let format ← writePieces format
    let text ← fieldText v conversion (some (format.flatMap (·.1)))
    return (text, false) :: (← writePieces rest)

end

/-- The canonical text of an expression. -/
def Expr.text (e : Expr) : Except PrintFault String := e.write false .test

end RecordLens.Code
