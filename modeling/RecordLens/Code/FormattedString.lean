import RecordLens.Code.LiteralValue
/-!
Formatted strings: text with replacement fields in braces. A field holds an expression, an optional
`=` that shows its text, an optional conversion letter, and an optional format, which may hold fields
of its own.

* `fieldExtent`: how far the expression of a field reaches.
* `piecesFrom`: the pieces of a body.
-/
namespace RecordLens.Code

/-- A place in code that cannot be read. -/
structure Fault where
  line : Nat
deriving DecidableEq, Repr, Inhabited

/-- What is wrong with a formatted string: the string itself, or the expression of a field. -/
inductive FormatFault
  | malformed
  | inField (fault : Fault)

/-- How deep fields may stand in the formats of fields. -/
def mostNestedFields : Nat := 2

/-! ## Text between the fields -/

/-- A stretch of text: its characters, whether it ends with a doubled brace, and what follows. -/
structure TextRun where
  text : List Char
  doubled : Bool
  rest : List Char

/-- The text up to the next field, or up to the end of a format. On the outer level a doubled brace
    stands for one brace and ends the stretch; a closing brace alone is refused there. `inName` is
    set inside the braces of a named character. -/
def textRun (raw outer : Bool) : Bool → List Char → List Char → Option TextRun
  | _, acc, [] => some ⟨acc.reverse, false, []⟩
  | true, acc, c :: rest => textRun raw outer (c ≠ '\x7d') (c :: acc) rest
  | false, acc, c :: rest =>
    let brace (acc : List Char) (c : Char) (rest : List Char) : Option TextRun :=
      match rest with
      | d :: more =>
        if outer && d = c then some ⟨(c :: acc).reverse, true, more⟩
        else if outer && c = '\x7d' then none
        else some ⟨acc.reverse, false, c :: rest⟩
      | [] => if outer && c = '\x7d' then none else some ⟨acc.reverse, false, c :: rest⟩
    if c = '\x7b' || c = '\x7d' then brace acc c rest
    else if raw || c ≠ '\\' then textRun raw outer false (c :: acc) rest
    else match rest with
      | [] => some ⟨(c :: acc).reverse, false, []⟩
      | 'N' :: '\x7b' :: more => textRun raw outer true ('\x7b' :: 'N' :: c :: acc) more
      | ['N'] => some ⟨('N' :: c :: acc).reverse, false, []⟩
      | 'N' :: d :: more => textRun raw outer false (d :: 'N' :: c :: acc) more
      | d :: more =>
        if d = '\x7b' || d = '\x7d' then brace (c :: acc) d more
        else textRun raw outer false (d :: c :: acc) more

/-! ## The expression of a field -/

/-- Where the reader of a field stands: in a string with the given quote, single or tripled, or
    between the brackets of the given stack. -/
structure FieldState where
  quote : Option (Char × Bool)
  brackets : List Char

/-- The characters of the expression at the start of a field, and what follows it; `skip` characters
    are passed over as they are. -/
def fieldExtent (state : FieldState) :
    Nat → List Char → List Char → Option (List Char × List Char)
  | _, _, [] => none
  | skip + 1, acc, c :: rest => fieldExtent state skip (c :: acc) rest
  | 0, acc, c :: rest =>
    if c = '\\' then none
    else
      let tripled := rest.take 2 = [c, c]
      match state.quote with
      | some (q, true) =>
        if c = q && tripled then fieldExtent { state with quote := none } 2 (c :: acc) rest
        else fieldExtent state 0 (c :: acc) rest
      | some (q, false) =>
        fieldExtent (if c = q then { state with quote := none } else state) 0 (c :: acc) rest
      | none =>
        if c = '"' || c = '\'' then
          if tripled then fieldExtent { state with quote := some (c, true) } 2 (c :: acc) rest
          else fieldExtent { state with quote := some (c, false) } 0 (c :: acc) rest
        else if c = '(' || c = '[' || c = '\x7b' then
          if 200 ≤ state.brackets.length then none
          else fieldExtent { state with brackets := c :: state.brackets } 0 (c :: acc) rest
        else if c = '#' then none
        else if state.brackets.isEmpty &&
            (c = '!' || c = ':' || c = '\x7d' || c = '=' || c = '<' || c = '>') then
          -- `!=`, `==`, `<=` and `>=` belong to the expression, as do `<` and `>`
          if rest.head? = some '=' && c ≠ ':' && c ≠ '\x7d' then
            fieldExtent state 1 (c :: acc) rest
          else if c = '<' || c = '>' then fieldExtent state 0 (c :: acc) rest
          else some (acc.reverse, c :: rest)
        else if c = ')' || c = ']' || c = '\x7d' then
          match state.brackets with
          | [] => none
          | opening :: outer =>
            if (opening = '(' && c = ')') || (opening = '[' && c = ']') ||
                (opening = '\x7b' && c = '\x7d') then
              fieldExtent { state with brackets := outer } 0 (c :: acc) rest
            else none
        else fieldExtent state 0 (c :: acc) rest

/-! ## Pieces -/

/-- The blanks that an expression in a field may begin with. -/
def isFieldSpace (c : Char) : Bool := c = ' ' || c = '\t' || c = '\n' || c = '\x0c'

/-- The blanks of text in one byte. -/
def isSpace (c : Char) : Bool := c = ' ' || (9 ≤ c.toNat && c.toNat ≤ 13)

/-- How expressions inside strings are read: the line they start on, and their text. -/
abbrev ReadField := Nat → List Char → Except Fault Expr

/-- Add pending text before a piece. -/
def withText (pending : List Nat) (pieces : List Piece) : List Piece :=
  if pending.isEmpty then pieces else .text pending :: pieces

/-- The pieces of a formatted string from a place in its body on, up to the end of the body or, in a
    format, up to the closing brace. `endLine` is the line on which the body ends, `pending` the text
    read since the last field. Each turn reads a character, which bounds `fuel`. -/
def piecesFrom (readField : ReadField) (raw : Bool) (endLine : Nat) :
    Nat → Nat → List Nat → List Char → Except FormatFault (List Piece × List Char)
  | 0, _, _, _ => .error .malformed
  | fuel + 1, depth, pending, cs =>
    match textRun raw (depth = 0) false [] cs with
    | none => .error .malformed
    | some run =>
      match textPoints raw run.text with
      | none => .error .malformed
      | some ps =>
        let pending := pending ++ ps
        if run.doubled then piecesFrom readField raw endLine fuel depth pending run.rest
        else match run.rest with
          | '\x7b' :: body => do
            if mostNestedFields ≤ depth then .error .malformed
            let some (expr, rest) := fieldExtent ⟨none, []⟩ 0 [] body | .error .malformed
            if expr.all isFieldSpace then .error .malformed
            let line := endLine - body.count '\n'
            let value ← match readField line ('(' :: expr ++ [')']) with
              | .ok value => .ok value
              | .error fault => .error (.inField fault)
            let shown := rest.head? = some '='
            let afterShown := if shown then (rest.drop 1).dropWhile isSpace else rest
            if afterShown.isEmpty then .error .malformed
            let text := if shown then body.take (body.length - afterShown.length) else []
            let (conversion, rest) ← match afterShown with
              | '!' :: c :: rest =>
                if c = 's' || c = 'r' || c = 'a' then .ok (some c, rest) else .error .malformed
              | '!' :: [] => .error .malformed
              | rest => .ok (none, rest)
            match rest with
            | ':' :: format => do
              if format.isEmpty then .error .malformed
              let (spec, rest) ← piecesFrom readField raw endLine fuel (depth + 1) [] format
              let '\x7d' :: rest := rest | .error .malformed
              let (pieces, rest) ← piecesFrom readField raw endLine fuel depth [] rest
              return (withText (pending ++ text.map Char.toNat)
                (.fieldWith value conversion spec :: pieces), rest)
            | '\x7d' :: rest => do
              let conversion := if shown && conversion.isNone then some 'r' else conversion
              let (pieces, rest) ← piecesFrom readField raw endLine fuel depth [] rest
              return (withText (pending ++ text.map Char.toNat)
                (.field value conversion :: pieces), rest)
            | _ => .error .malformed
          | rest =>
            if depth ≠ 0 && rest.isEmpty then .error .malformed
            else .ok (withText pending [], rest)

/-- The pieces of a body that ends on `endLine`. -/
def formattedPieces (readField : ReadField) (raw : Bool) (endLine : Nat) (body : List Char) :
    Except FormatFault (List Piece) :=
  (piecesFrom readField raw endLine (body.length + 1) 0 [] body).map (·.1)

end RecordLens.Code
