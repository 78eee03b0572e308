import RecordLens.Declaration.Diagnostic
/-!
The plan of what is generated for a record: its fields, the constructor that builds it from all of
them, and one lens for each exposed field, whose setter calls that constructor.

* `Declaration.fields`, `Declaration.unresolved`: the fields of a declaration, and what could not be
  resolved.
* `Declaration.plan?`: the plan of a record.
* `deriveTo`, `derive`: the plan together with its diagnostics, with and without a sink for them.
-/
namespace RecordLens

/-- A field of a record. -/
structure Field where
  name : String
  type : String
  visibility : Visibility
  /-- The type was taken from the initial value. -/
  inferred : Bool
  line : Nat
deriving DecidableEq, Repr, Inhabited

namespace Field

/-- Whether a field has a lens. -/
def isExposed (f : Field) : Bool := f.visibility = .exposed

/-- A short description. -/
def describe (f : Field) : String :=
  "<Field " ++ f.visibility.text ++ " " ++ f.name ++ ": " ++ f.type ++
  (if f.inferred then " (inferred)" else "") ++ ">"

/-- The parameter that takes the value of a field. -/
def parameter (f : Field) : Parameter := ⟨f.name, f.type, .positionalOrKeyword⟩

end Field

/-! ## Fields -/

/-- The type of a member: the written one, else that of its literal value. The flag tells that it was
    taken from the value. -/
def Member.resolvedType? (m : Member) : Option (String × Bool) :=
  match m.writtenType with
  | some type => if type.isEmpty then fromValue else some (type, false)
  | none => fromValue
where
  fromValue : Option (String × Bool) := (m.value.bind (·.kind.typeName?)).map fun type => (type, true)

/-- What a member comes to. -/
inductive MemberOutcome
  /-- It is shared by all records, or binds no single name. -/
  | skipped
  /-- It binds a name, but its type is unknown. -/
  | unresolved (name : String) (line : Nat)
  | field (f : Field)
deriving DecidableEq, Repr

/-- Decide about a member. A field without a visibility is hidden. -/
def Member.outcome (m : Member) : MemberOutcome :=
  if m.isStatic then .skipped
  else match m.name? with
    | none => .skipped
    | some name =>
      match m.resolvedType? with
      | none => .unresolved name m.line
      | some (type, inferred) =>
        .field ⟨name, type, (Visibility.ofModifiers? m.modifiers).getD .hidden, inferred, m.line⟩

/-- The field that a member yields. -/
def MemberOutcome.field? : MemberOutcome → Option Field
  | .field f => some f
  | _ => none

/-- The fields of a declaration, in the order of its members. -/
def Declaration.fields (d : Declaration) : List Field :=
  d.members.filterMap fun m => m.outcome.field?

/-- What could not be resolved, in the order of the members. -/
def Declaration.unresolved (d : Declaration) : List Diagnostic :=
  d.members.filterMap fun m =>
    match m.outcome with
    | .unresolved name line => some (.unresolvedType d name line)
    | _ => none

/-! ## Constructors -/

/-- The signature with every field, in order. -/
def canonicalSignature (fields : List Field) : Signature := ⟨fields.map Field.parameter, 0⟩

/-- Whether a written constructor can serve in place of the canonical one: it has the same
    parameters, and all of them can be passed by keyword. -/
def Signature.servesAs (written canonical : Signature) : Bool :=
  written.sameAs canonical && written.acceptsKeywords

/-- The first written constructor that serves as the canonical one. -/
def Declaration.reusable? (d : Declaration) (canonical : Signature) : Option Signature :=
  d.signatures.find? (·.servesAs canonical)

/-! ## Lenses -/

/-- What a setter passes for a parameter: the new value, or the value of a field of the record. -/
inductive Argument
  | target
  | kept (field : String)
deriving DecidableEq, Repr

/-- The text of an argument in a setter. -/
def Argument.text : Argument → String
  | .target => "target"
  | .kept field => "whole." ++ field

/-- One lens: the field it focuses, and the arguments that its setter passes by keyword. -/
structure LensPlan where
  field : Field
  arguments : List (String × Argument)
deriving DecidableEq, Repr

/-- The new value for the focused field, and the old value for every other parameter. -/
def setterArguments (field : Field) (s : Signature) : List (String × Argument) :=
  s.names.map fun name => (name, if name = field.name then .target else .kept name)

/-! ## Plans -/

/-- What is to be generated for a record. -/
structure Plan where
  declaration : Declaration
  fields : List Field
  /-- The written constructor that setters call, if there is one that serves. -/
  reused : Option Signature
deriving DecidableEq, Repr

/-- The name of the constructor that is generated when no written one serves. -/
def constructorName : String := "_autolens_init"

namespace Plan

/-- The signature with every field. -/
def signature (p : Plan) : Signature := canonicalSignature p.fields

/-- Whether a constructor is generated. -/
def emitsConstructor (p : Plan) : Bool := p.reused.isNone

/-- The path of the record. -/
def path (p : Plan) : String := p.declaration.path

/-- The expression that names the constructor setters call. -/
def constructor (p : Plan) : String :=
  if p.emitsConstructor then p.path ++ "." ++ constructorName else p.path

/-- The fields that have lenses. -/
def exposedFields (p : Plan) : List Field := p.fields.filter (·.isExposed)

/-- One lens for each exposed field. -/
def lenses (p : Plan) : List LensPlan :=
  p.exposedFields.map fun f => ⟨f, setterArguments f (p.reused.getD p.signature)⟩

end Plan

/-- The plan of a record; other declarations have none. -/
def Declaration.plan? (d : Declaration) : Option Plan :=
  if d.kind = .record then
    some ⟨d, d.fields, d.reusable? (canonicalSignature d.fields)⟩
  else none

/-- What comes of a declaration. -/
structure Derivation where
  plan : Option Plan
  diagnostics : List Diagnostic
deriving DecidableEq, Repr

/-- A declaration succeeds if it has a plan and no error. -/
def Derivation.success (d : Derivation) : Bool :=
  d.plan.isSome && !d.diagnostics.any (·.isError)

/-- Take the fields of members one after the other, and tell a sink what cannot be resolved. -/
def Declaration.extract {σ : Type} (d : Declaration) (sink : Sink σ) :
    List Member → σ → List Field × σ
  | [], heard => ([], heard)
  | m :: ms, heard =>
    match m.outcome with
    | .skipped => d.extract sink ms heard
    | .unresolved name line => d.extract sink ms (sink heard (.unresolvedType d name line))
    | .field f =>
      let (fields, heard) := d.extract sink ms heard
      (f :: fields, heard)

/-- Derive the plan of a declaration, and tell a sink all that was found. What is no record is reported
    and nothing else is. -/
def deriveTo {σ : Type} (sink : Sink σ) (d : Declaration) (heard : σ) : Derivation × σ :=
  if d.kind = .record then
    let (fields, found) := d.extract .collector d.members []
    (⟨some ⟨d, fields, d.reusable? (canonicalSignature fields)⟩, found⟩, found.foldl sink heard)
  else
    (⟨none, Sink.collector [] (.notRecord d)⟩, sink heard (.notRecord d))

/-- Derive the plan of a declaration. -/
def derive (d : Declaration) : Derivation := (deriveTo .nobody d ()).1

end RecordLens
