/-!
Blank characters and the two ways of cutting a text into lines. Editors and text readers end a line
at many characters (form feed, the separators U+001C to U+001E, U+2028, ...); a reader of code ends
one at a line feed, a carriage return, or the two together.
-/
namespace RecordLens.Text

/-- The characters that count as blank space in a line: the ASCII ones, the four information
    separators, and the spaces of Unicode. -/
def isBlank (c : Char) : Bool :=
  let n := c.toNat
  (9 ≤ n && n ≤ 13) || (28 ≤ n && n ≤ 32) || n = 0x85 || n = 0xA0 || n = 0x1680 ||
  (0x2000 ≤ n && n ≤ 0x200A) || n = 0x2028 || n = 0x2029 || n = 0x202F || n = 0x205F || n = 0x3000

/-- The characters at which a displayed line ends. -/
def endsDisplayLine (c : Char) : Bool :=
  let n := c.toNat
  (10 ≤ n && n ≤ 13) || (28 ≤ n && n ≤ 30) || n = 0x85 || n = 0x2028 || n = 0x2029

/-- The characters at which a line of code ends. -/
def endsCodeLine (c : Char) : Bool := c = '\n' || c = '\r'

/-- Cut a text after every character that ends a line; `\r\n` ends one line, and the ends are
    dropped. A text that stops right after a line end has no further empty line. -/
def cutLines (ends : Char → Bool) : List Char → List (List Char)
  | [] => []
  | '\r' :: '\n' :: rest => [] :: cutLines ends rest
  | c :: rest =>
    if ends c then [] :: cutLines ends rest
    else match cutLines ends rest with
      | [] => [[c]]
      | line :: lines => (c :: line) :: lines

/-- The lines of a text as it is displayed. -/
def displayLines (text : String) : List String :=
  (cutLines endsDisplayLine text.toList).map String.ofList

/-- The lines of a text as code is read. -/
def codeLines (text : String) : List String :=
  (cutLines endsCodeLine text.toList).map String.ofList

/-- The blank space at the start of a line. -/
def leadingBlanks (line : String) : String :=
  String.ofList (line.toList.takeWhile isBlank)

/-- Whether a line holds blank space only. -/
def isBlankLine (line : String) : Bool := line.toList.all isBlank

/-- Every line end becomes a line feed. -/
def unifyLineEnds : List Char → List Char
  | [] => []
  | '\r' :: '\n' :: rest => '\n' :: unifyLineEnds rest
  | '\r' :: rest => '\n' :: unifyLineEnds rest
  | c :: rest => c :: unifyLineEnds rest

end RecordLens.Text
