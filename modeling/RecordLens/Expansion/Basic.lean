import RecordLens.Expansion.Imports
import RecordLens.Expansion.Fields
import RecordLens.Expansion.Splice
import RecordLens.Plan.Text
/-!
Expanding a text of code: every declaration in it is planned, the generated members go behind the
bodies of their classes, and missing imports go to the top. A declaration that has its members
already is left as it is, and one bad declaration leaves the whole text as it is.
-/
namespace RecordLens

open Code

/-- What expanding a text comes to. -/
structure Expansion where
  text : String
  plans : List Plan
  diagnostics : List Diagnostic
deriving DecidableEq, Repr

namespace Expansion

/-- Whether nothing that was found is an error. -/
def success (e : Expansion) : Bool := !e.diagnostics.any (·.isError)

/-- What was found that is an error. -/
def errors (e : Expansion) : List Diagnostic := e.diagnostics.filter (·.isError)

/-- Everything that is no error. -/
def warnings (e : Expansion) : List Diagnostic := e.diagnostics.filter (!·.isError)

/-- A short description. -/
def describe (e : Expansion) : String :=
  "<ExpansionResult: " ++ (if e.success then "OK" else "FAIL") ++ " plans=" ++
  toString e.plans.length ++ " diagnostics=" ++ toString e.diagnostics.length ++ ">"

end Expansion

/-- Whether the lines of a declaration hold the marker in its own indentation. -/
def Declaration.isExpanded (d : Declaration) (lines : List String) : Bool :=
  ((lines.take d.location.endLine).drop (d.location.line - 1)).any
    (· = d.location.indent ++ Plan.marker)

/-- The generated members of a plan as a block behind the class. -/
def Plan.block (p : Plan) : Block String :=
  { line := p.declaration.location.line, endLine := p.declaration.location.endLine,
    content := p.memberLines p.declaration.location.indent }

/-- Put the members of the plans behind their classes, and then the missing imports at the top. -/
def insertMembers (tree : List Stmt) (lines : List String) (plans : List Plan)
    (needsFields : Bool) : List String :=
  let spliced := splice lines (plans.map (·.block))
  let (place, imports) := importBlock tree spliced needsFields
  insertLines spliced place imports

/-- The lines of a module with the members of the plans and the imports they need. -/
def expandLines (tree : List Stmt) (lines : List String) (plans : List Plan) :
    Except SourceError (List String) := do
  let insertions := plans.flatMap (·.insertions tree)
  return insertMembers tree (← insertAll lines insertions) plans (!insertions.isEmpty)

/-- How far a text is expanded: the plans and the diagnostics so far, and what a sink has heard. -/
structure Progress (σ : Type) where
  plans : List Plan
  diagnostics : List Diagnostic
  heard : σ

/-- Go on with one declaration. -/
def Progress.take {σ : Type} (sink : Sink σ) (lines : List String) (p : Progress σ)
    (d : Declaration) : Progress σ :=
  if d.isExpanded lines then
    { p with diagnostics := p.diagnostics ++ [.alreadyExpanded d],
             heard := sink p.heard (.alreadyExpanded d) }
  else
    let (derivation, heard) := deriveTo sink d p.heard
    { plans := p.plans ++ derivation.plan.toList,
      diagnostics := p.diagnostics ++ derivation.diagnostics, heard }

/-- Expand a module from its statements, its declarations and its text, and tell a sink the
    diagnostics. -/
def expandModuleTo {σ : Type} (sink : Sink σ) (tree : List Stmt) (declarations : List Declaration)
    (text : String) (heard : σ) : Except SourceError Expansion × σ :=
  let lines := Text.displayLines text
  let p := declarations.foldl (Progress.take sink lines) ⟨[], [], heard⟩
  let result : Expansion := ⟨text, p.plans, p.diagnostics⟩
  let outcome :=
    if !result.success || result.plans.isEmpty then .ok result
    else (expandLines tree lines result.plans).map fun lines =>
      { result with text := String.intercalate "\n" lines ++ "\n" }
  (outcome, p.heard)

/-- Expand a module while nobody listens. -/
def expandModule (tree : List Stmt) (declarations : List Declaration) (text : String) :
    Except SourceError Expansion :=
  (expandModuleTo .nobody tree declarations text ()).1

/-- The statements of a text and its declarations. -/
def readModule (filename text : String) : Except SourceError (List Stmt × List Declaration) := do
  let tree ← parseSource filename text
  let declarations ← Declaration.ofModule filename (.measured (Text.displayLines text)) tree
  return (tree, declarations)

/-- Expand a text, and tell a sink the diagnostics. -/
def expandTo {σ : Type} (sink : Sink σ) (filename text : String) (heard : σ) :
    Except SourceError Expansion × σ :=
  match readModule filename text with
  | .ok (tree, declarations) => expandModuleTo sink tree declarations text heard
  | .error e => (.error e, heard)

/-- Expand a text. -/
def expand (filename text : String) : Except SourceError Expansion :=
  (expandTo .nobody filename text ()).1

end RecordLens
