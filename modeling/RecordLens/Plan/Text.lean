import RecordLens.Plan.Basic
/-!
The generated members of a record as text: the tokens of its exposed fields and the accessor of its
lenses, the constructor unless a written one serves, the lenses, and the registry that maps tokens to
lenses. Each part is a list of lines without the indentation of the class body.
-/
namespace RecordLens

/-! ## Instructions of constructors -/

/-- The name of the type in its own constructor. -/
def ownerName : String := "cls"

/-- The name of the record in a constructor. -/
def recordName : String := "self"

/-- The name of the type that all types come from. -/
def rootName : String := "object"

/-- What a generated constructor does. -/
inductive Instruction
  /-- Make a record without attributes. -/
  | create
  /-- Store the value of a name as an attribute of the record. -/
  | store (field name : String)
  | giveBack
deriving DecidableEq, Repr

/-- The line of an instruction. -/
def Instruction.text : Instruction → String
  | .create => recordName ++ " = " ++ rootName ++ ".__new__(" ++ ownerName ++ ")"
  | .store field name =>
    rootName ++ ".__setattr__(" ++ recordName ++ ", \"" ++ field ++ "\", " ++ name ++ ")"
  | .giveBack => "return " ++ recordName

/-- The name of the class that lenses are defined in. -/
def lensesName : String := "AllLenses"

namespace Plan

/-- The line that marks generated members. -/
def marker : String := "# Generated by autolens. Do not edit below this line."

/-- One step of indentation. -/
def step : String := fourBlanks

/-- Indent a line by one step; empty lines stay empty. -/
def indented (indent : String) (line : String) : String :=
  if line.isEmpty then "" else indent ++ line

/-- The expression of a field token. -/
def token (p : Plan) (field : String) : String :=
  "FieldRef(\"" ++ p.path ++ "\", \"" ++ field ++ "\", __name__)"

/-- The line that defines the token of a field. -/
def tokenLine (p : Plan) (f : Field) : String :=
  step ++ f.name ++ ": FieldRef[" ++ p.path ++ ", " ++ f.type ++ "] = " ++ p.token f.name

/-- The tokens and the accessor. -/
def accessorLines (p : Plan) : List String :=
  ["class Fields:"] ++
  (if p.exposedFields.isEmpty then [step ++ "pass"] else p.exposedFields.map p.tokenLine) ++
  ["",
   "@classmethod",
   "def lens(cls, path: FieldRef[" ++ p.path ++ ", FocusT]) -> Lens[" ++ p.path ++ ", FocusT]:",
   step ++ "return cls.AllLenses.registry.lookup(path)"]

/-- The body of the constructor: it makes a record and stores each parameter in the field of its
    name. -/
def constructorBody (p : Plan) : List Instruction :=
  .create :: p.signature.names.map (fun name => .store name name) ++ [.giveBack]

/-- The constructor that takes every field. -/
def constructorLines (p : Plan) : List String :=
  ["@classmethod",
   "def " ++ constructorName ++ "(" ++
     String.intercalate ", " (ownerName :: p.signature.parameters.map (·.text)) ++ ") -> " ++
     p.path ++ ":"] ++
  p.constructorBody.map (step ++ ·.text)

/-- One lens. -/
def lensLines (p : Plan) (l : LensPlan) : List String :=
  [l.field.name ++ ": Lens[" ++ p.path ++ ", " ++ l.field.type ++ "] = Lens(",
   step ++ "getter=lambda whole: whole." ++ l.field.name ++ ",",
   step ++ "setter=lambda whole, target: " ++ p.constructor ++ "("] ++
  (l.arguments.map fun (parameter, argument) =>
    step ++ step ++ parameter ++ "=" ++ argument.text ++ ",") ++
  [step ++ "),",
   ")"]

/-- The entry of a lens in the registry. -/
def entryLine (p : Plan) (l : LensPlan) : String :=
  p.token l.field.name ++ ": " ++ l.field.name ++ ","

/-- The registry. -/
def registryLines (p : Plan) : List String :=
  if p.lenses.isEmpty then
    ["registry: LensRegistry[" ++ p.path ++ "] = LensRegistry(\"" ++ p.path ++ "\", \x7b\x7d)"]
  else
    ["registry: LensRegistry[" ++ p.path ++ "] = LensRegistry(",
     step ++ "\"" ++ p.path ++ "\",",
     step ++ "\x7b"] ++
    (p.lenses.map fun l => step ++ step ++ p.entryLine l) ++
    [step ++ "\x7d,",
     ")"]

/-- The lenses and the registry. -/
def lensesLines (p : Plan) : List String :=
  "class AllLenses:" ::
  ((p.lenses.flatMap fun l => p.lensLines l ++ [""]) ++ p.registryLines).map (indented step)

/-- The parts, with an empty line between two of them. -/
def separateParts : List (List String) → List String
  | [] => []
  | [part] => part
  | part :: parts => part ++ "" :: separateParts parts

/-- Every generated member, under an empty line and the marker. -/
def memberLines (p : Plan) (indent : String) : List String :=
  (["", marker] ++ separateParts
    ([p.accessorLines] ++ (if p.emitsConstructor then [p.constructorLines] else []) ++
     [p.lensesLines])).map (indented indent)

/-- The generated members as one text. -/
def memberText (p : Plan) (indent : String) : String :=
  String.intercalate "\n" (p.memberLines indent) ++ "\n"

end Plan
end RecordLens
