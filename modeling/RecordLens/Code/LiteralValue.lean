import RecordLens.Code.Expr
import RecordLens.Text.CharName
/-!
The values of literals from their spelling: numbers, and the parts of a string token with its
escapes resolved.
-/
namespace RecordLens.Code

/-! ## Numbers -/

/-- The value of a digit to base 36 at most. -/
def digitValue (c : Char) : Nat :=
  let n := c.toNat
  if c.isDigit then n - 48
  else if 97 ≤ n then n - 87
  else n - 55

/-- The number with the given digits. -/
def digitsValue (base : Nat) (ds : List Char) : Nat :=
  ds.foldl (fun n d => n * base + digitValue d) 0

/-- The most digits a whole number may be read from, unless they are those of a power of two. -/
def mostReadDigits : Nat := 4300

/-- `sign digits` behind the exponent mark. -/
def exponentValue : List Char → Int
  | '-' :: ds => -(digitsValue 10 ds : Int)
  | '+' :: ds => digitsValue 10 ds
  | ds => digitsValue 10 ds

/-- A decimal with an optional point and exponent. -/
def realValue (cs : List Char) : Decimal.Binary64 :=
  let isMark (c : Char) : Bool := c = 'e' || c = 'E'
  let mantissa := cs.takeWhile (!isMark ·)
  let exponent := exponentValue ((cs.dropWhile (!isMark ·)).drop 1)
  let whole := mantissa.takeWhile (· ≠ '.')
  let fraction := (mantissa.dropWhile (· ≠ '.')).drop 1
  Decimal.nearest (digitsValue 10 (whole ++ fraction)) (exponent - fraction.length)

/-- The value of a number token; a whole number may have too many digits. -/
def numberValue (text : String) : Option Literal :=
  let cs := text.toList.filter (· ≠ '_')
  match cs with
  | '0' :: 'x' :: ds | '0' :: 'X' :: ds => some (.int (digitsValue 16 ds))
  | '0' :: 'o' :: ds | '0' :: 'O' :: ds => some (.int (digitsValue 8 ds))
  | '0' :: 'b' :: ds | '0' :: 'B' :: ds => some (.int (digitsValue 2 ds))
  | _ =>
    if cs.getLast? = some 'j' || cs.getLast? = some 'J' then
      some (.imaginary (realValue cs.dropLast))
    else if cs.any (fun c => c = '.' || c = 'e' || c = 'E') then some (.real (realValue cs))
    else if cs.head? ≠ some '0' && mostReadDigits < cs.length then none
    else some (.int (digitsValue 10 cs))

/-! ## The parts of a string token -/

/-- What a string stands for. -/
inductive StringKind
  | text | bytes | formatted
deriving DecidableEq, Repr

/-- A string token, taken apart. -/
structure StringForm where
  kind : StringKind
  /-- Backslashes stand for themselves. -/
  raw : Bool
  /-- The token starts with the letter `u`. -/
  marked : Bool
  body : List Char

/-- Take a string token apart. -/
def StringForm.ofToken (text : String) : StringForm :=
  let cs := text.toList
  let isQuote (c : Char) : Bool := c = '"' || c = '\''
  let letters := cs.takeWhile (!isQuote ·)
  let quotedPart := cs.dropWhile (!isQuote ·)
  let has (a b : Char) : Bool := letters.contains a || letters.contains b
  let size := match quotedPart with
    | a :: b :: c :: _ :: _ :: _ :: _ => if a = b && a = c then 3 else 1
    | _ => 1
  { kind := if has 'b' 'B' then .bytes else if has 'f' 'F' then .formatted else .text
    raw := has 'r' 'R'
    marked := letters.head? = some 'u'
    body := (quotedPart.drop size).take (quotedPart.length - 2 * size) }

/-! ## Escapes -/

/-- The digits to base 16. -/
def isHex (c : Char) : Bool :=
  c.isDigit || ('a' ≤ c && c ≤ 'f') || ('A' ≤ c && c ≤ 'F')

/-- The digits to base 8. -/
def isOctal (c : Char) : Bool := '0' ≤ c && c ≤ '7'

/-- The letter escapes. -/
def letterEscape (c : Char) : Option Nat :=
  if c = '\\' || c = '\'' || c = '"' then some c.toNat
  else if c = 'b' then some 8
  else if c = 'f' then some 12
  else if c = 't' then some 9
  else if c = 'n' then some 10
  else if c = 'r' then some 13
  else if c = 'v' then some 11
  else if c = 'a' then some 7
  else none

/-- Exactly `count` hexadecimal digits. -/
def hexEscape (count : Nat) (rest : List Char) : Option Nat :=
  let ds := rest.take count
  if ds.length = count && ds.all isHex then some (digitsValue 16 ds) else none

/-- The escape behind a backslash in text, with the number of characters it takes; `none` when it is
    malformed. An unknown escape stands for itself. -/
def textEscape (c : Char) (rest : List Char) : Option (List Nat × Nat) :=
  if c = '\n' then some ([], 0)
  else match letterEscape c with
    | some p => some ([p], 0)
    | none =>
      if isOctal c then
        let ds := (rest.take 2).takeWhile isOctal
        some ([digitsValue 8 (c :: ds)], ds.length)
      else if c = 'x' then (hexEscape 2 rest).map ([·], 2)
      else if c = 'u' then (hexEscape 4 rest).map ([·], 4)
      else if c = 'U' then
        (hexEscape 8 rest).bind fun p => if p < 0x110000 then some ([p], 8) else none
      else if c = 'N' then
        match rest with
        | '\x7b' :: more =>
          let name := more.takeWhile (· ≠ '\x7d')
          if name.length < more.length then
            (Text.characterNamed name).map ([·], name.length + 2)
          else none
        | _ => none
      else some ([92, c.toNat], 0)

/-- The escape behind a backslash in bytes. -/
def bytesEscape (c : Char) (rest : List Char) : Option (List Nat × Nat) :=
  if c = '\n' then some ([], 0)
  else match letterEscape c with
    | some p => some ([p], 0)
    | none =>
      if isOctal c then
        let ds := (rest.take 2).takeWhile isOctal
        some ([digitsValue 8 (c :: ds) % 256], ds.length)
      else if c = 'x' then (hexEscape 2 rest).map ([·], 2)
      else some ([92, c.toNat], 0)

/-- Resolve the escapes of a body, passing over `skip` characters that an escape has used up. -/
def resolve (escape : Char → List Char → Option (List Nat × Nat)) :
    Nat → List Char → Option (List Nat)
  | _, [] => some []
  | skip + 1, _ :: rest => resolve escape skip rest
  | 0, '\\' :: [] => some [92]
  | 0, '\\' :: c :: rest =>
    match escape c rest with
    | some (ps, used) => (resolve escape (used + 1) (c :: rest)).map (ps ++ ·)
    | none => none
  | 0, c :: rest => (resolve escape 0 rest).map (c.toNat :: ·)

/-- The code points of a text body. -/
def textPoints (raw : Bool) (body : List Char) : Option (List Nat) :=
  if raw then some (body.map Char.toNat) else resolve textEscape 0 body

/-- The bytes of a bytes body, which holds ASCII only. -/
def bytesValues (raw : Bool) (body : List Char) : Option (List Nat) :=
  if raw then some (body.map Char.toNat) else resolve bytesEscape 0 body

end RecordLens.Code
