import RecordLens.Optic.Lens
import RecordLens.Plan.PrivateNames
/-!
What the generated code of a record does when it runs: calls by keyword bind parameters, constructors
go through their instructions, and setters call the constructor of their plan. Constructors stand in the
class of the record, and lenses in a class of their own, so that names which are private to these classes
stand for longer ones there.

* `bindByName`: the parameters of a call.
* `Frame.run`: the instructions of a constructor.
* `Plan.callConstructor`: the generated constructor as it stands in its class.
* `Plan.construct`: the constructor that setters call.
* `Plan.lens`: a lens of a plan on records.
-/
namespace RecordLens

/-- The attributes of a record, in the order in which they were first stored. -/
abbrev Attributes (V : Type) := List (String × V)

/-- Store an attribute: in its old place, or behind the others if it is new. -/
def Attributes.store {V : Type} (name : String) (value : V) : Attributes V → Attributes V
  | [] => [(name, value)]
  | e :: rest => if e.1 = name then (name, value) :: rest else e :: store name value rest

/-- Store several attributes, one after the other. -/
def Attributes.storeAll {V : Type} (values : List (String × V)) : Attributes V :=
  values.foldl (fun a e => Attributes.store e.1 e.2 a) []

/-! ## Calls by keyword -/

/-- Why a call or the code behind it fails. -/
inductive RunFault
  /-- Two parameters of a function have one name. -/
  | repeatedParameter
  | repeatedArgument
  /-- An argument is given for a name that is no parameter, or none that takes keywords. -/
  | unexpectedArgument
  | missingArgument (name : String)
  | noAttribute (name : String)
  /-- A name stands for something else than it is used for. -/
  | wrongName (name : String)
  /-- A constructor ends without giving a record back. -/
  | nothingReturned
deriving DecidableEq, Repr

/-- The value of an argument, by its name. -/
def argument {V : Type} (arguments : List (String × V)) (p : Parameter) :
    Except RunFault (String × V) :=
  match arguments.lookup p.name with
  | some value => .ok (p.name, value)
  | none => .error (.missingArgument p.name)

/-- Bind parameters to arguments that are given by keyword. -/
def bindByName {V : Type} (parameters : List Parameter) (arguments : List (String × V)) :
    Except RunFault (List (String × V)) :=
  if ¬(arguments.map (·.1)).Nodup then .error .repeatedArgument
  else if arguments.any fun e => !parameters.any fun p => p.name = e.1 && p.kind.byKeyword then
    .error .unexpectedArgument
  else parameters.mapM (argument arguments)

/-! ## Constructors -/

/-- What a name stands for in a generated constructor. -/
inductive Meaning (V : Type)
  | value (v : V)
  /-- The type whose constructor it is. -/
  | owner
  /-- The type that all types come from. -/
  | root
  /-- The record that is made. -/
  | record

/-- A constructor on its way: its names, the latest first, and the attributes of its record, if it has
    been made. -/
structure Frame (V : Type) where
  names : List (String × Meaning V)
  attributes : Option (Attributes V)

namespace Frame
variable {V : Type}

/-- What a name stands for: the function's own names hide the root type. -/
def find? (f : Frame V) (name : String) : Option (Meaning V) :=
  (f.names.lookup name).or (if name = rootName then some .root else none)

/-- Go through the instructions up to the one that gives the record back. -/
def run (f : Frame V) : List Instruction → Except RunFault (Attributes V)
  | [] => .error .nothingReturned
  | .create :: rest =>
    match f.find? rootName, f.find? ownerName with
    | some .root, some .owner => run ⟨(recordName, .record) :: f.names, some []⟩ rest
    | some .root, _ => .error (.wrongName ownerName)
    | _, _ => .error (.wrongName rootName)
  | .store field name :: rest =>
    match f.find? rootName, f.find? recordName, f.attributes, f.find? name with
    | some .root, some .record, some a, some (.value v) =>
      run ⟨f.names, some (a.store field v)⟩ rest
    | some .root, some .record, some _, _ => .error (.wrongName name)
    | some .root, _, _, _ => .error (.wrongName recordName)
    | _, _, _, _ => .error (.wrongName rootName)
  | .giveBack :: _ =>
    match f.find? recordName, f.attributes with
    | some .record, some a => .ok a
    | _, _ => .error (.wrongName recordName)

end Frame

/-- Call a constructor. Its first parameter is bound to the type. -/
def runBody {V : Type} (parameters : List Parameter) (body : List Instruction)
    (arguments : List (String × V)) : Except RunFault (Attributes V) := do
  if ¬(ownerName :: parameters.map (·.name)).Nodup then throw .repeatedParameter
  let bound ← bindByName parameters arguments
  Frame.run ⟨(ownerName, .owner) :: bound.map (fun e => (e.1, .value e.2)), none⟩ body

namespace Plan
variable {V : Type}

/-- Call the generated constructor from outside of its class. -/
def callConstructor (p : Plan) (arguments : List (String × V)) : Except RunFault (Attributes V) :=
  runBody (p.signature.parameters.map (·.inside p.declaration.name))
    (p.constructorBody.map (·.inside p.declaration.name)) arguments

/-- The signature of the constructor that setters call. -/
def usableSignature (p : Plan) : Signature := p.reused.getD p.signature

/-- The parameters of the constructor that setters call, as they stand in the class. -/
def usableParameters (p : Plan) : List Parameter :=
  p.usableSignature.parameters.map (·.inside p.declaration.name)

/-- Call the constructor that setters call. A written one stands in the class as the generated one does,
    and is taken to store each of its parameters in the field that the parameter is written like. -/
def construct (p : Plan) (arguments : List (String × V)) : Except RunFault (Attributes V) :=
  match p.reused with
  | some written => do
    let bound ← bindByName p.usableParameters arguments
    return .storeAll (written.names.zip (bound.map (·.2)))
  | none => p.callConstructor arguments

end Plan

/-! ## Lenses -/

/-- Read an attribute. -/
def Attributes.read {V : Type} (whole : Attributes V) (name : String) : Except RunFault V :=
  match whole.lookup name with
  | some v => .ok v
  | none => .error (.noAttribute name)

/-- The value of an argument of a setter. It is read in the class of the lenses. -/
def Argument.value {V : Type} (whole : Attributes V) (target : V) : Argument → Except RunFault V
  | .target => .ok target
  | .kept field => whole.read (nameInside lensesName field)

/-- The arguments of a setter's call, with their values. Arguments are passed by the names as written. -/
def LensPlan.values {V : Type} (l : LensPlan) (whole : Attributes V) (target : V) :
    Except RunFault (List (String × V)) :=
  l.arguments.mapM fun (name, a) => return (name, ← a.value whole target)

/-- A lens of a plan on records, as it stands in the class of the lenses: it reads the focused field, and
    it builds another record by a call of the constructor with the arguments of the lens. -/
def Plan.lens {V : Type} (p : Plan) (l : LensPlan) : Lens RunFault (Attributes V) V where
  get whole := whole.read (nameInside lensesName l.field.name)
  set whole target := do p.construct (← l.values whole target)

end RecordLens
