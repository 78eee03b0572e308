import RecordLens.Command.Document
import RecordLens.Expansion.Basic
/-!
What the commands print: coloured lines about success and failure, the listing of plans, and the
document that holds them.
-/
namespace RecordLens

/-! ## Colours -/

/-- The colours and weights of printed text. -/
inductive Colour
  | bold | dim | red | green | yellow | cyan
deriving DecidableEq, Repr

/-- The characters that switch to a colour. -/
def Colour.code : Colour → String
  | .bold => "\x1b[1m"
  | .dim => "\x1b[2m"
  | .red => "\x1b[31m"
  | .green => "\x1b[32m"
  | .yellow => "\x1b[33m"
  | .cyan => "\x1b[36m"

/-- How text is printed. -/
structure Style where
  colours : Bool
deriving DecidableEq, Repr

namespace Style

/-- A text in some colours. -/
def paint (style : Style) (colours : List Colour) (text : String) : String :=
  if style.colours then String.join (colours.map (·.code)) ++ text ++ "\x1b[0m" else text

/-- A line that says what was done. -/
def success (style : Style) (text : String) : String :=
  "  " ++ style.paint [.green] "✓" ++ " " ++ text

/-- A line that warns. -/
def caution (style : Style) (text : String) : String :=
  "  " ++ style.paint [.yellow] "⚠" ++ " " ++ text

/-- A line that says what went wrong. -/
def failure (style : Style) (text : String) : String :=
  "  " ++ style.paint [.red] "✗" ++ " " ++ text

/-- A heading between two rules. -/
def heading (style : Style) (text : String) : List String :=
  let rule := style.paint [.bold, .cyan] (String.ofList (List.replicate 60 '─'))
  ["", rule, style.paint [.bold] ("  " ++ text), rule]

/-- The line of a diagnostic. -/
def diagnostic (style : Style) (d : Diagnostic) : String :=
  if d.isError then style.failure d.format else style.caution d.format

/-! ## The listing of plans -/

/-- A word with blanks behind it up to a width. -/
def padded (width : Nat) (word : String) : String :=
  word ++ String.ofList (List.replicate (width - word.length) ' ')

/-- The line of a field in the listing of a plan. -/
def fieldLine (style : Style) (f : Field) : String :=
  "    " ++ (if f.isExposed then style.paint [.green] "lens" else style.paint [.dim] "----") ++ "  " ++
  padded 8 f.visibility.text ++ " " ++ f.name ++ ": " ++ f.type ++
  (if f.inferred then style.paint [.dim] " (inferred)" else "")

/-- The line of the constructor in the listing of a plan. -/
def constructorLine (style : Style) (p : Plan) : String :=
  match p.reused with
  | none => "    init  " ++ style.paint [.yellow] "synthesized" ++ " " ++ constructorName ++ "(" ++
      p.signature.parameterText ++ ")"
  | some written => "    init  " ++ style.paint [.green] "reused" ++ " __init__ at line " ++
      toString written.line

/-- The line of the registry in the listing of a plan. -/
def registryLine (p : Plan) : String :=
  "    registry: " ++ toString p.lenses.length ++
  (if p.lenses.length = 1 then " entry" else " entries")

/-- The lines about a plan. -/
def planLines (style : Style) (p : Plan) : List String :=
  ["", "  " ++ style.paint [.bold] p.path ++ " " ++
    style.paint [.dim] ("line " ++ toString p.declaration.location.line)] ++
  p.fields.map style.fieldLine ++ [style.constructorLine p, registryLine p]

/-- The listing of what an expansion of a file would generate. -/
def listing (style : Style) (file : String) (e : Expansion) : List String :=
  style.heading ("Generation plan: " ++ file) ++ e.plans.flatMap style.planLines ++
  (if e.diagnostics.isEmpty then
    if e.plans.isEmpty then [style.paint [.dim] "\n  No @autolens declarations found."] else []
   else [""])

end Style

/-! ## The document of plans -/

/-- A plan as a document. -/
def Plan.summary (p : Plan) : Document :=
  .table
    [("declaration", .text p.path),
     ("fields", .list (p.fields.map fun f => .table
       [("name", .text f.name), ("type", .text f.type), ("access", .text f.visibility.text),
        ("inferred", .flag f.inferred)])),
     ("initializer", .text (if p.emitsConstructor then "synthesized" else "reused")),
     ("lenses", .list (p.lenses.map fun l => .text l.field.name))]

/-- A diagnostic as a document. -/
def Diagnostic.summary (d : Diagnostic) : Document :=
  .table
    [("severity", .text d.severity.text), ("domain", .text Diagnostic.domain),
     ("id", .text d.finding.id), ("message", .text d.finding.message),
     ("line", .number d.location.line)]

/-- What an expansion of a file would generate, as a document. -/
def Expansion.summary (file : String) (e : Expansion) : Document :=
  .table
    [("file", .text file), ("plans", .list (e.plans.map (·.summary))),
     ("diagnostics", .list (e.diagnostics.map (·.summary)))]

end RecordLens
