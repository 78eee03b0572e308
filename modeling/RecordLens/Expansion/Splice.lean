/-!
Putting blocks of lines behind given lines of a text. Blocks are put in from the last line to the
first, so that the numbers of earlier lines stay valid.
-/
namespace RecordLens

/-- Put lines in behind the first `place` ones; behind all of them if there are fewer. -/
def insertLines {α : Type} (lines : List α) (place : Nat) (block : List α) : List α :=
  lines.take place ++ block ++ lines.drop place

/-- A block of lines for the stretch of text from `line` to `endLine`, behind which it goes. -/
structure Block (α : Type) where
  line : Nat
  endLine : Nat
  content : List α

/-- The order in which blocks go in: the ones that end last come first, and of those that end
    together the outermost. -/
def Block.earlier {α : Type} (a b : Block α) : Bool :=
  if a.endLine = b.endLine then a.line ≤ b.line else b.endLine < a.endLine

/-- Put in all blocks. -/
def splice {α : Type} (lines : List α) (blocks : List (Block α)) : List α :=
  (blocks.mergeSort Block.earlier).foldl (fun ls b => insertLines ls b.endLine b.content) lines

end RecordLens
