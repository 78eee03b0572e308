import RecordLens.Declaration.Basic
/-!
What authors are told about their declarations. A finding says what was found; its severity, its
identifier and its message follow from it. A sink is told diagnostics one by one.
-/
namespace RecordLens

/-- How bad a finding is. -/
inductive Severity
  | error | warning | note
deriving DecidableEq, Repr, Inhabited

/-- The word for a severity in messages. -/
def Severity.text : Severity → String
  | .error => "error"
  | .warning => "warning"
  | .note => "note"

/-- What is found about declarations. -/
inductive Finding
  /-- Lenses were asked for on something that is no record. -/
  | notRecord (kind : DeclKind) (name : String)
  /-- The type of a member is neither written nor plain from its value. -/
  | unresolvedType (owner member : String)
  /-- A declaration has generated members already. -/
  | alreadyExpanded (path : String)
deriving DecidableEq, Repr

namespace Finding

def severity : Finding → Severity
  | .notRecord _ _ => .error
  | .unresolvedType _ _ => .warning
  | .alreadyExpanded _ => .note

/-- The name of a finding in messages. -/
def id : Finding → String
  | .notRecord _ _ => "typeIsNotStruct"
  | .unresolvedType _ _ => "unresolvedFieldType"
  | .alreadyExpanded _ => "alreadyExpanded"

/-- The sentence of a finding. -/
def message : Finding → String
  | .notRecord kind name =>
    "@autolens cannot be applied to " ++ kind.text ++ " '" ++ name ++
    "'; it only applies to frozen dataclasses"
  | .unresolvedType owner member =>
    "cannot infer the type of '" ++ owner ++ "." ++ member ++
    "'; it gets no lens and is left out of the generated constructor (add an annotation)"
  | .alreadyExpanded path =>
    "'" ++ path ++ "' already carries generated members; left as is"

end Finding

/-- A finding, and where it is made. -/
structure Diagnostic where
  finding : Finding
  location : Location
deriving DecidableEq, Repr

namespace Diagnostic

/-- The family that all identifiers belong to. -/
def domain : String := "AutoLensDiagnostic"

def severity (d : Diagnostic) : Severity := d.finding.severity

/-- Whether a diagnostic is an error. -/
def isError (d : Diagnostic) : Bool := d.severity = .error

/-- A diagnostic on one line, with its place in front and its identifier behind. -/
def format (d : Diagnostic) : String :=
  d.location.filename ++ ":" ++ toString d.location.line ++ ": " ++ d.severity.text ++ ": " ++
  d.finding.message ++ " [" ++ d.finding.id ++ "]"

/-- A short description. -/
def describe (d : Diagnostic) : String :=
  "<Diagnostic " ++ d.severity.text ++ " " ++ domain ++ "/" ++ d.finding.id ++ ": " ++
  d.finding.message ++ ">"

/-- The declaration is no record. -/
def notRecord (d : Declaration) : Diagnostic := ⟨.notRecord d.kind d.name, d.location⟩

/-- The type of a member of the declaration is unknown. The member's own line is reported, if it has
    one. -/
def unresolvedType (d : Declaration) (member : String) (line : Nat) : Diagnostic :=
  ⟨.unresolvedType d.name member,
   { filename := d.location.filename, line := if line = 0 then d.location.line else line,
     endLine := 0, column := d.location.column, indent := fourBlanks }⟩

/-- The declaration has generated members already. -/
def alreadyExpanded (d : Declaration) : Diagnostic := ⟨.alreadyExpanded d.path, d.location⟩

end Diagnostic

/-! ## Sinks -/

/-- One who is told diagnostics as they come up: how what is known changes with each of them. -/
abbrev Sink (σ : Type) := σ → Diagnostic → σ

/-- Keeps every diagnostic in the order of arrival. -/
def Sink.collector : Sink (List Diagnostic) := fun heard d => heard ++ [d]

/-- Nobody is told. -/
def Sink.nobody : Sink Unit := fun _ _ => ()

end RecordLens
