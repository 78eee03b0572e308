import RecordLens.Text.Printable
/-!
Quoted forms of text and of bytes. Text is given by its code points, so that a lone surrogate has a
form too. Single quotes are used unless the text holds one and holds no double quote.
-/
namespace RecordLens.Text

/-- The code points of a text. -/
def points (s : String) : List Nat := s.toList.map Char.toNat

/-- A text of code points; a lone surrogate has no character and becomes U+FFFD. -/
def ofPoints (ps : List Nat) : String :=
  String.ofList (ps.map fun p => if p.isValidChar then Char.ofNat p else Char.ofNat 0xFFFD)

/-- The code point of a digit to base 16. -/
def hexDigit (n : Nat) : Nat := if n < 10 then 48 + n else 87 + n

/-- `n` in hexadecimal with exactly `width` digits. -/
def hexDigits : Nat → Nat → List Nat
  | 0, _ => []
  | width + 1, n => hexDigits width (n / 16) ++ [hexDigit (n % 16)]

def backslash : Nat := 92
def singleQuote : Nat := 39
def doubleQuote : Nat := 34

/-- The escape of a code point by its number, in the shortest of the three forms. -/
def numericEscape (p : Nat) : List Nat :=
  if p < 0x100 then backslash :: 120 :: hexDigits 2 p
  else if p < 0x10000 then backslash :: 117 :: hexDigits 4 p
  else backslash :: 85 :: hexDigits 8 p

/-- The escape of a code point, with a letter for a tab and the two line ends. -/
def escapePoint (p : Nat) : List Nat :=
  if p = 9 then [backslash, 116]
  else if p = 10 then [backslash, 110]
  else if p = 13 then [backslash, 114]
  else if p = backslash then [backslash, backslash]
  else numericEscape p

/-- The quote around a text. -/
def quoteFor (ps : List Nat) : Nat :=
  if ps.contains singleQuote && !ps.contains doubleQuote then doubleQuote else singleQuote

/-- The inside of a quoted text. -/
def quotedBody (quote : Nat) (shown : Nat → Bool) (ps : List Nat) : List Nat :=
  ps.flatMap fun p =>
    if p = quote then [backslash, p]
    else if p = backslash || !shown p then escapePoint p
    else [p]

/-- The quoted form of a text. -/
def quoted (ps : List Nat) : List Nat :=
  let quote := quoteFor ps
  quote :: quotedBody quote isPrintable ps ++ [quote]

/-- The quoted form of bytes; only ASCII is shown as it is. -/
def quotedBytes (bytes : List Nat) : List Nat :=
  let quote := quoteFor bytes
  98 :: quote :: quotedBody quote (fun b => 32 ≤ b && b < 127) bytes ++ [quote]

/-- The quoted form of a string. -/
def quote (s : String) : String := ofPoints (quoted (points s))

end RecordLens.Text
