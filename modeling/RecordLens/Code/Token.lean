/-!
Places in a text of code, and the tokens it is cut into. Lines count from 1 and columns count UTF-8
bytes from 0.
-/
namespace RecordLens.Code

/-- The stretch of code that a piece of a program takes up. -/
structure Span where
  line : Nat
  column : Nat
  endLine : Nat
  endColumn : Nat
deriving DecidableEq, Repr, Inhabited

/-- From the start of one stretch to the end of another. -/
def Span.to (first last : Span) : Span :=
  ⟨first.line, first.column, last.endLine, last.endColumn⟩

/-- The kinds of tokens. -/
inductive TokenKind
  | name | number | string
  /-- Operators and brackets, and the two words `async` and `await`. -/
  | mark
  | newline | indent | dedent | endMarker
deriving DecidableEq, Repr, Inhabited

/-- A token, with its place in the text. -/
structure Token where
  kind : TokenKind
  text : String
  span : Span
  /-- How many brackets are open after the token. -/
  depth : Nat
deriving Repr, Inhabited

/-- Why a text cannot be cut into tokens any further. -/
structure Stop where
  line : Nat
  /-- Whether the stop also counts when reading the tokens before it has failed already. -/
  certain : Bool
  /-- The line of the innermost bracket that was open. -/
  openBracket : Option Nat
deriving Repr, Inhabited

/-- The tokens of a text, and the stop after the last of them. A text cut to its end has an
    `endMarker` before the stop. -/
structure TokenList where
  tokens : Array Token
  stop : Stop
deriving Inhabited

end RecordLens.Code
