import RecordLens.Expansion.Basic
import RecordLens.Text.Quoted
/-!
The trace of an expansion: what was decided about each member, each constructor and each declaration,
in the order in which it was decided.
-/
namespace RecordLens

/-- A line of the trace about deriving a plan. -/
def derivingLine (text : String) : String := "DEBUG autolens.derive: " ++ text

/-- A line of the trace about expanding a text. -/
def expandingLine (text : String) : String := "INFO autolens.expand: " ++ text

namespace Declaration

/-- What was decided about a member. -/
def memberTrace (d : Declaration) (m : Member) : List String :=
  match m.outcome, m.name? with
  | .field f, _ =>
    [derivingLine (d.path ++ "." ++ f.name ++ ": " ++ f.visibility.text ++ " " ++ f.type)]
  | .unresolved name _, _ => [derivingLine (d.path ++ "." ++ name ++ ": type unresolved, skipped")]
  | .skipped, none =>
    if m.isStatic then []
    else [derivingLine (d.path ++ ": skipping member with bindings [" ++
      String.intercalate ", " (m.bindings.map (Text.quote ·.text)) ++ "]")]
  | .skipped, some _ => []

/-- The written constructors that fit but cannot be called by keyword, up to the one that serves. -/
def constructorTrace (d : Declaration) (canonical : Signature) : List String :=
  ((d.signatures.takeWhile (!·.servesAs canonical)).filter (·.sameAs canonical)).map fun s =>
    derivingLine (d.path ++ ": initializer at line " ++ toString s.line ++
      " matches but takes positional-only arguments")

/-- The trace of deriving a plan. -/
def planTrace (d : Declaration) : List String :=
  match d.plan? with
  | none =>
    [derivingLine (d.path ++ ": rejected, " ++ d.kind.text ++ " is not a product type")]
  | some p =>
    d.members.flatMap d.memberTrace ++ d.constructorTrace p.signature ++
    [derivingLine (match p.reused with
      | some written => d.path ++ ": reusing initializer at line " ++ toString written.line
      | none => d.path ++ ": synthesizing " ++ constructorName ++ p.signature.describe)]

/-- Where a declaration of a file starts. -/
def origin (d : Declaration) (filename : String) : String :=
  filename ++ ":" ++ toString d.location.line ++ ": "

/-- The trace of one declaration of a text. -/
def trace (filename : String) (lines : List String) (d : Declaration) : List String :=
  if d.isExpanded lines then
    [expandingLine (d.origin filename ++ d.path ++ " already expanded, skipped")]
  else d.planTrace

end Declaration

/-- The trace of putting in the members of a plan. -/
def Plan.spliceTrace (filename : String) (p : Plan) : String :=
  expandingLine (p.declaration.origin filename ++ "expanded " ++ p.path ++ " (" ++
    toString p.lenses.length ++ " lens(es), initializer " ++
    (if p.emitsConstructor then "synthesized" else "reused") ++ ")")

/-- The order in which the members of plans are put in. -/
def Plan.earlier (a b : Plan) : Bool := a.block.earlier b.block

/-- The trace of putting in members, which is empty unless an expansion changes the text. -/
def Expansion.spliceTrace (filename : String) (e : Expansion) : List String :=
  if e.success then (e.plans.mergeSort Plan.earlier).map (·.spliceTrace filename) else []

/-- The trace of expanding a text. -/
def expansionTrace (filename text : String) : List String :=
  match readModule filename text with
  | .error _ => []
  | .ok (tree, declarations) =>
    declarations.flatMap (·.trace filename (Text.displayLines text)) ++
    match expandModule tree declarations text with
    | .error _ => []
    | .ok e => e.spliceTrace filename

end RecordLens
