/-!
Declarations of record types: their stored members, the constructors their authors wrote, and where
they stand in a text of code.
-/
namespace RecordLens

/-- What sort of definition a declaration is. Only a record has stored fields that lenses can be
    made for. -/
inductive DeclKind
  | record | mutable | enumeration | protocol | function
deriving DecidableEq, Repr, Inhabited

namespace DeclKind

def text : DeclKind → String
  | .record => "struct"
  | .mutable => "class"
  | .enumeration => "enum"
  | .protocol => "protocol"
  | .function => "function"

/-- All kinds of declarations. -/
def all : List DeclKind := [.record, .mutable, .enumeration, .protocol, .function]

def ofText? (s : String) : Option DeclKind := all.find? (·.text = s)

end DeclKind

/-! ## Visibility -/

/-- Who may see a field, from the narrowest circle to the widest. -/
inductive Visibility
  | hidden | internal | exposed
deriving DecidableEq, Repr, Inhabited

namespace Visibility

/-- The place of a visibility, from the closest up. -/
def rank : Visibility → Nat
  | .hidden => 0
  | .internal => 1
  | .exposed => 2

/-- The name of a visibility, in capitals. -/
def capitals : Visibility → String
  | .hidden => "PRIVATE"
  | .internal => "INTERNAL"
  | .exposed => "PUBLIC"

def text : Visibility → String
  | .hidden => "private"
  | .internal => "internal"
  | .exposed => "public"

/-- The capital of a letter, as far as it can be a letter of a visibility: the only letter outside
    ASCII with such a capital is the dotless `ı`. -/
def capital (c : Char) : Char :=
  if 'a' ≤ c && c ≤ 'z' then Char.ofNat (c.toNat - 32)
  else if c = 'ı' then 'I'
  else c

/-- The visibility that a modifier names, in any mixture of cases. -/
def ofModifier? (modifier : String) : Option Visibility :=
  let capitals := String.ofList (modifier.toList.map capital)
  [hidden, internal, exposed].find? (·.capitals = capitals)

/-- The first visibility among the modifiers. -/
def ofModifiers? (modifiers : List String) : Option Visibility := modifiers.findSome? ofModifier?

end Visibility

/-! ## Members -/

/-- What sort of value an expression writes down literally. -/
inductive ValueKind
  | boolean | float | integer | string | other
deriving DecidableEq, Repr, Inhabited

namespace ValueKind

def text : ValueKind → String
  | .boolean => "BOOLEAN"
  | .float => "FLOAT"
  | .integer => "INTEGER"
  | .string => "STRING"
  | .other => "OTHER"

def ofText? (s : String) : Option ValueKind :=
  [boolean, float, integer, string, other].find? (·.text = s)

/-- The type of a literal. -/
def typeName? : ValueKind → Option String
  | .boolean => some "bool"
  | .float => some "float"
  | .integer => some "int"
  | .string => some "str"
  | .other => none

end ValueKind

/-- The value a member starts with: its kind and its canonical text. -/
structure InitialValue where
  kind : ValueKind
  text : String
deriving DecidableEq, Repr, Inhabited

/-- One pattern that a member binds; an identifier binds a single name. -/
structure Binding where
  text : String
  isIdentifier : Bool
deriving DecidableEq, Repr, Inhabited

/-- A stored member of a declaration. -/
structure Member where
  bindings : List Binding
  /-- The type as it is written in front of the value. -/
  writtenType : Option String
  value : Option InitialValue
  modifiers : List String
  isStatic : Bool
  line : Nat
deriving DecidableEq, Repr, Inhabited

/-- The name a member binds, if it binds exactly one. -/
def Member.name? (m : Member) : Option String :=
  match m.bindings with
  | [b] => if b.isIdentifier then some b.text else none
  | _ => none

/-! ## Constructors -/

/-- How an argument for a parameter may be passed. -/
inductive ParameterKind
  | positionalOnly | positionalOrKeyword | variadic | keywordOnly | variadicKeyword
deriving DecidableEq, Repr, Inhabited

namespace ParameterKind

def text : ParameterKind → String
  | .positionalOnly => "positional-only"
  | .positionalOrKeyword => "positional-or-keyword"
  | .variadic => "var-positional"
  | .keywordOnly => "keyword-only"
  | .variadicKeyword => "var-keyword"

def ofText? (s : String) : Option ParameterKind :=
  [positionalOnly, positionalOrKeyword, variadic, keywordOnly, variadicKeyword].find? (·.text = s)

/-- Whether an argument can be passed as `name=value`. -/
def byKeyword : ParameterKind → Bool
  | .positionalOrKeyword | .keywordOnly => true
  | _ => false

end ParameterKind

/-- A parameter of a constructor; its type is empty when it has none. -/
structure Parameter where
  name : String
  type : String
  kind : ParameterKind
deriving DecidableEq, Repr, Inhabited

/-- A parameter with its type, if it is written. -/
def Parameter.text (p : Parameter) : String :=
  if p.type.isEmpty then p.name else p.name ++ ": " ++ p.type

/-- The signature of a constructor, and the line on which it is written. -/
structure Signature where
  parameters : List Parameter
  line : Nat
deriving DecidableEq, Repr, Inhabited

namespace Signature

/-- The names of the parameters. -/
def names (s : Signature) : List String := s.parameters.map (·.name)

/-- Whether every parameter can be passed by keyword. -/
def acceptsKeywords (s : Signature) : Bool := s.parameters.all (·.kind.byKeyword)

/-- The names and types, which decide whether two signatures are the same. -/
def pairs (s : Signature) : List (String × String) := s.parameters.map fun p => (p.name, p.type)

/-- Whether two signatures have the same names and types in the same order. -/
def sameAs (a b : Signature) : Bool := a.pairs = b.pairs

/-- The parameters with commas between them. -/
def parameterText (s : Signature) : String :=
  String.intercalate ", " (s.parameters.map (·.text))

/-- A short description. -/
def describe (s : Signature) : String := "<Initializer (" ++ s.parameterText ++ ")>"

end Signature

/-! ## Declarations -/

/-- Where a declaration stands: its lines, the byte column at which it starts, and the blank space
    before the first statement of its body. -/
structure Location where
  filename : String
  line : Nat
  endLine : Nat
  column : Nat
  indent : String
deriving DecidableEq, Repr

/-- The name of a text that comes from no file. -/
def sourceName : String := "<source>"

/-- The usual indentation. -/
def fourBlanks : String := "    "

instance : Inhabited Location := ⟨⟨sourceName, 0, 0, 0, fourBlanks⟩⟩

/-- A definition that lenses are asked for, and what it declares. -/
structure Declaration where
  kind : DeclKind
  name : String
  members : List Member
  signatures : List Signature
  /-- The names of the enclosing definitions and of this one, with points between them. -/
  qualifiedName : String
  location : Location
deriving DecidableEq, Repr, Inhabited

namespace Declaration

/-- The name under which code of its module reaches a declaration. -/
def path (d : Declaration) : String := if d.qualifiedName.isEmpty then d.name else d.qualifiedName

/-- A short description. -/
def describe (d : Declaration) : String :=
  "<Declaration " ++ d.kind.text ++ " " ++ d.path ++ " members=" ++ toString d.members.length ++
  " inits=" ++ toString d.signatures.length ++ ">"

end Declaration
end RecordLens
