import RecordLens.Declaration.FromCode
import RecordLens.Plan.Basic
import RecordLens.Text.Columns
/-!
Members whose type is inferred become fields of their record: `name = value` is turned into
`name: type = dataclasses.field(default=value, kw_only=True)` by three insertions, so that the
author's text and all line numbers stay.
-/
namespace RecordLens

open Code

/-- A piece of text to be put into a line at a byte column. -/
structure Insertion where
  line : Nat
  column : Nat
  text : String
deriving DecidableEq, Repr, Inhabited

/-- Whether one text comes before another, code point by code point. -/
def textBefore : List Char → List Char → Bool
  | _, [] => false
  | [], _ :: _ => true
  | a :: as, b :: bs => if a = b then textBefore as bs else a.toNat < b.toNat

/-- Whether one insertion lies before another in the text. Two at one place are ordered by their
    texts. -/
def Insertion.before (a b : Insertion) : Bool :=
  if a.line ≠ b.line then a.line < b.line
  else if a.column ≠ b.column then a.column < b.column
  else textBefore a.text.toList b.text.toList

mutual

/-- The bodies of all classes in a statement, with the lines of their heads. -/
def classBodiesIn : Stmt → List (Nat × List Stmt)
  | .classDef span _ _ _ body => (span.line, body) :: classBodies body
  | .functionDef _ _ _ _ _ body => classBodies body
  | .compound _ body => classBodies body
  | _ => []

/-- The bodies of all classes in statements, each with the line of its head. -/
def classBodies : List Stmt → List (Nat × List Stmt)
  | [] => []
  | s :: ss => classBodiesIn s ++ classBodies ss

end

/-- The field that an assignment to `name` on `line` declares with an inferred type. Of two on one
    line the later one counts. -/
def inferredField? (fields : List Field) (line : Nat) (name : String) : Option Field :=
  fields.reverse.find? fun f => f.inferred && f.line = line && f.name = name

/-- The insertions for one statement of a class body. -/
def insertionsFor (fields : List Field) : Stmt → List Insertion
  | .assign span [.name target id] value =>
    match inferredField? fields span.line id with
    | some f =>
      [⟨target.endLine, target.endColumn, ": " ++ f.type⟩,
       ⟨value.span.line, value.span.column, "dataclasses.field(default="⟩,
       ⟨value.span.endLine, value.span.endColumn, ", kw_only=True)"⟩]
    | none => []
  | _ => []

/-- The insertions for the inferred fields of a plan. -/
def Plan.insertions (tree : List Stmt) (p : Plan) : List Insertion :=
  match (classBodies tree).lookup p.declaration.location.line with
  | some body => body.flatMap (insertionsFor p.fields)
  | none => []

/-- Put a text into one of the lines. -/
def insertInto (lines : List String) (i : Insertion) : Except SourceError (List String) :=
  match lines[i.line - 1]? with
  | none => .ok lines
  | some line =>
    match Text.insertAtByte line i.column i.text with
    | some new => .ok (lines.set (i.line - 1) new)
    | none => .error .cutCharacter

/-- Put all texts in, the last one first, so that earlier columns stay valid. -/
def insertAll (lines : List String) (insertions : List Insertion) :
    Except SourceError (List String) :=
  (insertions.mergeSort fun a b => !a.before b).foldlM insertInto lines

end RecordLens
