/-!
Columns counted in UTF-8 bytes. A column inside a character has no place in the line, so cutting
there fails; a column past the end of the line means its end.
-/
namespace RecordLens.Text

/-- The number of bytes a text takes in UTF-8. -/
def byteLength : List Char → Nat
  | [] => 0
  | c :: cs => c.utf8Size + byteLength cs

/-- Cut a line at a byte column. -/
def cutAtByte : Nat → List Char → Option (List Char × List Char)
  | 0, cs => some ([], cs)
  | _ + 1, [] => some ([], [])
  | n + 1, c :: cs =>
    if c.utf8Size ≤ n + 1 then
      (cutAtByte (n + 1 - c.utf8Size) cs).map fun cut => (c :: cut.1, cut.2)
    else none

/-- Put `piece` into a line at a byte column. -/
def insertAtByte (line : String) (column : Nat) (piece : String) : Option String :=
  (cutAtByte column line.toList).map fun cut =>
    String.ofList (cut.1 ++ piece.toList ++ cut.2)

end RecordLens.Text
