import RecordLens.Code.Token
import RecordLens.Text.Columns
import RecordLens.Text.Lines
import RecordLens.Text.Identifier
/-!
Cutting code into tokens. Indentation becomes `indent` and `dedent` tokens, line ends inside brackets
and on blank lines disappear, and a backslash joins a line to the next.

* `numberEnd`, `stringEnd`: where a literal ends, if it is well formed.
* `Scanner.step`: one step over the text.
* `tokenize`: the whole text.
-/
namespace RecordLens.Code

/-! ## Numbers -/

/-- A character that glues itself to a preceding word or number. -/
def isWordChar (c : Char) : Bool := Text.isAsciiLetter c || c.isDigit || 128 ≤ c.toNat

/-- What may follow a number directly: no word, except one that starts like an operator word. -/
def endsNumber : List Char → Bool
  | 'a' :: 'n' :: 'd' :: _ | 'e' :: 'l' :: 's' :: 'e' :: _ | 'f' :: 'o' :: 'r' :: _
  | 'i' :: 'f' :: _ | 'i' :: 'n' :: _ | 'i' :: 's' :: _ | 'o' :: 'r' :: _
  | 'n' :: 'o' :: 't' :: _ => true
  | [] => true
  | c :: _ => !isWordChar c

/-- Keep the rest of the text if a number may end before it. -/
def closeNumber (rest : List Char) : Option (List Char) :=
  if endsNumber rest then some rest else none

/-- Behind the digits; single underscores may separate them. -/
def digitsEnd : List Char → Option (List Char)
  | [] => some []
  | '_' :: [] => none
  | '_' :: d :: rest => if d.isDigit then digitsEnd rest else none
  | c :: rest => if c.isDigit then digitsEnd rest else some (c :: rest)

/-- Behind the zeros at the start of a number. -/
def zerosEnd : List Char → Option (List Char)
  | '0' :: rest => zerosEnd rest
  | '_' :: '0' :: rest => zerosEnd rest
  | '_' :: d :: rest => if d.isDigit then some (d :: rest) else none
  | '_' :: [] => none
  | rest => some rest

/-- How far a group of digits in another base has come. -/
inductive GroupState
  | start | afterUnderscore | digits

/-- What stands behind the digits of a number to base 2, 8 or 16. -/
def radixEnd (isDigit : Char → Bool) : GroupState → List Char → Option (List Char)
  | .start, '_' :: rest => radixEnd isDigit .afterUnderscore rest
  | .digits, '_' :: rest => radixEnd isDigit .afterUnderscore rest
  | .digits, [] => some []
  | _, [] => none
  | state, c :: rest =>
    if isDigit c then radixEnd isDigit .digits rest
    else match state with
      | .digits => closeNumber (c :: rest)
      | _ => none

/-- Behind the mark of an imaginary number, or behind the number itself. -/
def imaginaryEnd : List Char → Option (List Char)
  | 'j' :: rest | 'J' :: rest => closeNumber rest
  | rest => closeNumber rest

/-- Behind an exponent, if there is one. -/
def exponentEnd : List Char → Option (List Char)
  | [] => some []
  | c :: rest =>
    if c = 'e' || c = 'E' then
      match rest with
      | [] => closeNumber (c :: rest)
      | d :: more =>
        if d = '+' || d = '-' then
          match more with
          | x :: tail => if x.isDigit then (digitsEnd tail).bind imaginaryEnd else none
          | [] => none
        else if d.isDigit then (digitsEnd more).bind imaginaryEnd
        else closeNumber (c :: rest)
    else imaginaryEnd (c :: rest)

/-- Behind the digits after a point. -/
def fractionEnd (rest : List Char) : Option (List Char) :=
  match rest with
  | d :: more => if d.isDigit then (digitsEnd more).bind exponentEnd else exponentEnd rest
  | [] => some []

/-- Behind the whole part of a number. -/
def afterWhole (rest : List Char) : Option (List Char) :=
  match rest with
  | '.' :: more => fractionEnd more
  | _ => exponentEnd rest

/-- Behind the number that starts with the digit `first`, if it is well formed. -/
def numberEnd (first : Char) (rest : List Char) : Option (List Char) :=
  if first = '0' then
    match rest with
    | 'x' :: more | 'X' :: more =>
      radixEnd (fun c => c.isDigit || ('a' ≤ c && c ≤ 'f') || ('A' ≤ c && c ≤ 'F')) .start more
    | 'o' :: more | 'O' :: more => radixEnd (fun c => '0' ≤ c && c ≤ '7') .start more
    | 'b' :: more | 'B' :: more => radixEnd (fun c => c = '0' || c = '1') .start more
    | _ => (zerosEnd rest).bind fun tail =>
      match tail with
      | d :: more =>
        if d.isDigit then
          -- a zero may lead only the digits of a real or imaginary number
          (digitsEnd more).bind fun tail =>
            match tail with
            | '.' :: _ | 'e' :: _ | 'E' :: _ | 'j' :: _ | 'J' :: _ => afterWhole tail
            | _ => none
        else afterWhole tail
      | [] => some []
  else (digitsEnd rest).bind afterWhole

/-! ## Strings -/

/-- A place in the text: what is left, and where it starts. -/
structure Cursor where
  rest : List Char
  line : Nat
  column : Nat
deriving Inhabited

/-- The line that was read last: at the end of the text no further line has begun. -/
def Cursor.lastLine (c : Cursor) : Nat :=
  if c.rest.isEmpty && c.column = 0 then c.line - 1 else c.line

/-- Behind the characters `cs`, all on one line, with `rest` left. -/
def Cursor.past (c : Cursor) (cs : List Char) (rest : List Char) : Cursor :=
  ⟨rest, c.line, c.column + Text.byteLength cs⟩

/-- How many letters before a quote belong to the string, if the text starts with such letters and a
    quote: `u` alone, or `b` or `f` with `r` in either order. -/
def quotePrefix (b u r f : Bool) : List Char → Option Nat
  | [] => none
  | c :: rest =>
    if c = '"' || c = '\'' then some 0
    else
      let next (b u r f : Bool) : Option Nat := (quotePrefix b u r f rest).map (· + 1)
      if !(b || u || f) && (c = 'b' || c = 'B') then next true u r f
      else if !(b || u || r || f) && (c = 'u' || c = 'U') then next b true r f
      else if !(r || u) && (c = 'r' || c = 'R') then next b u true f
      else if !(f || b || u) && (c = 'f' || c = 'F') then next b u r true
      else none

/-- Behind the string body at the cursor, which ends at `size` quotes in a row, of which `run` have
    been seen. A body in single quotes may not run over the end of its line. -/
def stringEnd (quote : Char) (size : Nat) : Nat → List Char → Nat → Nat → Option Cursor
  | _, [], _, _ => none
  | _, '\\' :: [], _, _ => none
  | _, '\\' :: c :: rest, line, column =>
    if c = '\n' then stringEnd quote size 0 rest (line + 1) 0
    else stringEnd quote size 0 rest line (column + 1 + c.utf8Size)
  | run, c :: rest, line, column =>
    if c = quote then
      if run + 1 = size then some ⟨rest, line, column + 1⟩
      else stringEnd quote size (run + 1) rest line (column + 1)
    else if c = '\n' then
      if size = 1 then none else stringEnd quote size 0 rest (line + 1) 0
    else stringEnd quote size 0 rest line (column + c.utf8Size)

/-- Behind the string whose opening quote is at the cursor. -/
def quotedEnd (c : Cursor) : Option Cursor :=
  match c.rest with
  | a :: b :: d :: rest =>
    if a = b && a = d then stringEnd a 3 0 rest c.line (c.column + 3)
    else if a = b then some ⟨d :: rest, c.line, c.column + 2⟩
    else stringEnd a 1 0 (b :: d :: rest) c.line (c.column + 1)
  | a :: b :: [] => if a = b then some ⟨[], c.line, c.column + 2⟩ else none
  | _ => none

/-! ## Marks -/

/-- The marks of three characters. -/
def threeMarks : List String := ["**=", "...", "//=", "<<=", ">>="]

/-- The marks of two characters. -/
def twoMarks : List String :=
  ["!=", "%=", "&=", "**", "*=", "+=", "-=", "->", "//", "/=", ":=", "<<", "<=", "<>", "==", ">=",
   ">>", "@=", "^=", "|="]

/-- How many characters the mark at the start of the text has. -/
def markLength : List Char → Nat
  | a :: b :: rest =>
    if twoMarks.contains (String.ofList [a, b]) || (a = '.' && b = '.') then
      match rest with
      | c :: _ => if threeMarks.contains (String.ofList [a, b, c]) then 3 else
        if a = '.' then 1 else 2
      | [] => if a = '.' then 1 else 2
    else 1
  | _ => 1

/-- Whether two brackets belong together. -/
def closes (opening closing : Char) : Bool :=
  (opening = '(' && closing = ')') || (opening = '[' && closing = ']') ||
  (opening = '\x7b' && closing = '\x7d')

/-! ## One step -/

/-- What is known between two tokens. -/
structure Scanner where
  cursor : Cursor
  /-- At the start of a line, before its indentation. -/
  fresh : Bool
  /-- On a line that holds nothing but blanks and a comment. -/
  blank : Bool
  /-- The open blocks, the innermost first: the columns of their indentation with a tab running to
      the next multiple of eight, and with a tab as one column. -/
  indents : List (Nat × Nat)
  opening : Bool
  closing : Nat
  /-- The open brackets, the innermost first, with their lines. -/
  brackets : List (Char × Nat)

/-- How deep lines can be indented. -/
def mostIndents : Nat := 100

/-- How many brackets can be open. -/
def mostBrackets : Nat := 200

/-- What one step of the scanner does. -/
inductive Step
  | skip (next : Scanner)
  | emit (token : Token) (next : Scanner)
  | stop (reason : Stop)

/-- The line of the innermost open bracket. -/
def Scanner.openBracket (s : Scanner) : Option Nat := s.brackets.head?.map (·.2)

/-- Stop for good: the text is not a text of tokens. -/
def Scanner.refuse (s : Scanner) (line : Nat) : Step := .stop ⟨line, true, s.openBracket⟩

/-- Stop in a way that only shows when reading gets here. -/
def Scanner.halt (s : Scanner) (line : Nat) : Step := .stop ⟨line, false, s.openBracket⟩

/-- The text ends too early; an open bracket is then the reason to stop. -/
def Scanner.breakOff (s : Scanner) (line : Nat) : Step :=
  .stop ⟨s.openBracket.getD line, false, s.openBracket⟩

/-- A token without text at the cursor. -/
def Scanner.mark (s : Scanner) (kind : TokenKind) (text : String) (stop : Cursor) : Token :=
  { kind, text, span := ⟨s.cursor.lastLine, s.cursor.column, stop.line, stop.column⟩,
    depth := s.brackets.length }

/-- The indentation of a line, as far as it has been measured. -/
structure Margin where
  column : Nat
  tight : Nat
  /-- The column before the first backslash that joins lines inside the indentation. -/
  joined : Nat
  cursor : Cursor

/-- What a backslash in an indentation can get wrong. -/
inductive JoinFault
  | notAtLineEnd (line : Nat)
  | nothingFollows (line : Nat)

/-- Measure the indentation at the cursor. A backslash must end its line. -/
def measure (line column : Nat) (col tight joined : Nat) : List Char → Except JoinFault Margin
  | ' ' :: rest => measure line (column + 1) (col + 1) (tight + 1) joined rest
  | '\t' :: rest => measure line (column + 1) ((col / 8 + 1) * 8) (tight + 1) joined rest
  | '\x0c' :: rest => measure line (column + 1) 0 0 joined rest
  | '\\' :: '\n' :: [] => .error (.nothingFollows line)
  | '\\' :: '\n' :: rest =>
    measure (line + 1) 0 col tight (if joined = 0 then col else joined) rest
  | '\\' :: _ => .error (.notAtLineEnd line)
  | rest => .ok ⟨col, tight, joined, ⟨rest, line, column⟩⟩

/-- Leave the blocks that are indented deeper than `col`. -/
def dropDeeper (col : Nat) : List (Nat × Nat) → List (Nat × Nat)
  | [] => []
  | [base] => [base]
  | block :: rest => if col < block.1 then dropDeeper col rest else block :: rest

/-- Compare the indentation of a line with the open blocks. -/
def Scanner.indent (s : Scanner) : Step :=
  match measure s.cursor.line s.cursor.column 0 0 0 s.cursor.rest with
  | .error (.notAtLineEnd line) => s.halt line
  | .error (.nothingFollows line) => s.breakOff line
  | .ok margin =>
    let s := { s with cursor := margin.cursor, fresh := false }
    match margin.cursor.rest with
    | '#' :: _ | '\n' :: _ => .skip { s with blank := true }
    | _ =>
      if !s.brackets.isEmpty then .skip s
      else
        let col := if margin.joined = 0 then margin.column else margin.joined
        let tight := if margin.joined = 0 then margin.tight else margin.joined
        let line := margin.cursor.lastLine
        match s.indents with
        | [] => .skip s
        | (top, topTight) :: below =>
          if col = top then
            if tight = topTight then .skip s else s.halt line
          else if top < col then
            if mostIndents ≤ below.length + 1 then s.halt line
            else if tight ≤ topTight then s.halt line
            else .skip { s with indents := (col, tight) :: s.indents, opening := true }
          else
            let left := dropDeeper col s.indents
            match left with
            | (base, baseTight) :: _ =>
              if col ≠ base then s.halt line
              else if tight ≠ baseTight then s.halt line
              else .skip { s with indents := left, closing := s.indents.length - left.length }
            | [] => .skip s

/-- The token made of `cs`, with `rest` left behind it. -/
def Scanner.take (s : Scanner) (kind : TokenKind) (cs rest : List Char) : Step :=
  let stop := s.cursor.past cs rest
  .emit (s.mark kind (String.ofList cs) stop) { s with cursor := stop }

/-- A word. Its characters outside ASCII must be those of identifiers. -/
def Scanner.word (s : Scanner) (first : Char) (rest : List Char) : Step :=
  let cs := first :: rest.takeWhile isWordChar
  let left := rest.dropWhile isWordChar
  if cs.all (·.toNat < 128) || Text.isIdentifier cs then
    let kind := if cs = "async".toList || cs = "await".toList then .mark else .name
    s.take kind cs left
  else s.refuse s.cursor.line

/-- A string with `letters` letters before its quote. -/
def Scanner.quoted (s : Scanner) (letters : Nat) : Step :=
  let quote := s.cursor.past (s.cursor.rest.take letters) (s.cursor.rest.drop letters)
  match quotedEnd quote with
  | none => s.refuse s.cursor.line
  | some stop =>
    let text := s.cursor.rest.take (s.cursor.rest.length - stop.rest.length)
    .emit (s.mark .string (String.ofList text) stop) { s with cursor := stop }

/-- An operator or a bracket. -/
def Scanner.punctuation (s : Scanner) (first : Char) : Step :=
  let n := markLength s.cursor.rest
  let cs := s.cursor.rest.take n
  let rest := s.cursor.rest.drop n
  let emit (s : Scanner) : Step := s.take .mark cs rest
  if first = '(' || first = '[' || first = '\x7b' then
    if mostBrackets ≤ s.brackets.length then s.refuse s.cursor.line
    else emit { s with brackets := (first, s.cursor.line) :: s.brackets }
  else if first = ')' || first = ']' || first = '\x7d' then
    match s.brackets with
    | [] => s.refuse s.cursor.line
    | (opening, _) :: outer =>
      if closes opening first then emit { s with brackets := outer }
      else { s with brackets := outer }.refuse s.cursor.line
  else if first.toNat < 32 || first.toNat = 127 then s.refuse s.cursor.line
  else emit s

/-- The text ends here, which is too early inside brackets. -/
def Scanner.finish (s : Scanner) : Step :=
  if s.brackets.isEmpty then .emit (s.mark .endMarker "" s.cursor) s
  else s.breakOff s.cursor.lastLine

/-- Read on from a place inside a line. -/
def Scanner.read (s : Scanner) : Step :=
  match s.cursor.rest with
  | [] => s.finish
  | c :: rest =>
    if c = ' ' || c = '\t' || c = '\x0c' then .skip { s with cursor := s.cursor.past [c] rest }
    else if c = '#' then
      let comment := s.cursor.rest.takeWhile (· ≠ '\n')
      .skip { s with cursor := s.cursor.past comment (s.cursor.rest.dropWhile (· ≠ '\n')) }
    else if c = '\n' then
      let next := { s with
        cursor := ⟨rest, s.cursor.line + 1, 0⟩, fresh := true, blank := false }
      if s.blank || !s.brackets.isEmpty then .skip next
      else .emit (s.mark .newline "" s.cursor) next
    else if c = '\\' then
      match rest with
      | '\n' :: [] => s.breakOff s.cursor.line
      | '\n' :: more => .skip { s with cursor := ⟨more, s.cursor.line + 1, 0⟩ }
      | _ => s.halt s.cursor.line
    else match quotePrefix false false false false s.cursor.rest with
      | some letters => s.quoted letters
      | none =>
        if c.isDigit then
          match numberEnd c rest with
          | some left =>
            s.take .number (s.cursor.rest.take (s.cursor.rest.length - left.length)) left
          | none => s.refuse s.cursor.line
        else if Text.isAsciiLetter c || 128 ≤ c.toNat then s.word c rest
        else match c, rest with
          | '.', d :: more =>
            if d.isDigit then
              match fractionEnd (d :: more) with
              | some left =>
                s.take .number (s.cursor.rest.take (s.cursor.rest.length - left.length)) left
              | none => s.refuse s.cursor.line
            else s.punctuation c
          | _, _ => s.punctuation c

/-- One step: the indentation of a new line, a block edge that is due, or the next piece of text. -/
def Scanner.step (s : Scanner) : Step :=
  if s.fresh then s.indent
  else if s.opening then .emit (s.mark .indent "" s.cursor) { s with opening := false }
  else match s.closing with
    | n + 1 => .emit (s.mark .dedent "" s.cursor) { s with closing := n }
    | 0 => s.read

/-! ## The whole text -/

/-- Run the scanner. Each step reads a character or settles part of an indentation, so `fuel` in
    proportion to the length of the text is enough. -/
def Scanner.run : Nat → Scanner → List Token → TokenList
  | 0, s, tokens => ⟨tokens.reverse.toArray, ⟨s.cursor.lastLine, false, none⟩⟩
  | fuel + 1, s, tokens =>
    match s.step with
    | .stop reason => ⟨tokens.reverse.toArray, reason⟩
    | .skip next => next.run fuel tokens
    | .emit token next =>
      if token.kind = .endMarker then
        ⟨(token :: tokens).reverse.toArray, ⟨s.cursor.lastLine, false, none⟩⟩
      else next.run fuel (token :: tokens)

/-- A text to be run as a whole ends with a line feed; after `\r\n` at its very end one more is
    added. -/
def closeLastLine (text : List Char) : List Char :=
  let unified := Text.unifyLineEnds text
  match unified.getLast?, text.reverse with
  | some '\n', '\n' :: '\r' :: _ => unified ++ ['\n']
  | some '\n', _ => unified
  | _, _ => unified ++ ['\n']

/-- The tokens of a text whose first line has the number `line`. -/
def tokenize (line : Nat) (text : List Char) : TokenList :=
  let start : Scanner :=
    { cursor := ⟨text, line, 0⟩, fresh := true, blank := false, indents := [(0, 0)],
      opening := false, closing := 0, brackets := [] }
  start.run (4 * text.length + 8) []

end RecordLens.Code
