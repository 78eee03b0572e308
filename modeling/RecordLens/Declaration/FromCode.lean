import RecordLens.Declaration.Basic
import RecordLens.Code.Parse
import RecordLens.Code.Printer
import RecordLens.Text.Lines
/-!
Declarations read from code. A definition is declared by a decorator; a class body declares its
members by assignments and annotations, their visibility by tuples of names, and its constructors by
functions.

* `Expr.classify`: the literal kind of an expression.
* `membersOf`, `signaturesOf`: what a class body declares.
* `markedDefinitions`: the declared definitions of a module, with their qualified names.
* `Declaration.parseAll`: the declarations of a text.
-/
namespace RecordLens

open Code

/-- Why a text has no declarations, or cannot be expanded. -/
inductive SourceError
  /-- The text is no code; the line is the one that cannot be read. -/
  | malformed (filename : String) (line : Nat)
  /-- The body of a definition starts on the line of its head. -/
  | bodyOnHeadLine (filename : String) (line : Nat) (name : String)
  | nullCharacter
  /-- An expression has no canonical text. -/
  | unwritable (fault : PrintFault)
  /-- Text was to be put inside a character. -/
  | cutCharacter
deriving DecidableEq, Repr

/-- Outcomes are compared by their errors and by their results. -/
instance decideOutcome {ε α : Type} [DecidableEq ε] [DecidableEq α] : DecidableEq (Except ε α)
  | .ok a, .ok b => decidable_of_iff (a = b) ⟨congrArg _, Except.ok.inj⟩
  | .error a, .error b => decidable_of_iff (a = b) ⟨congrArg _, Except.error.inj⟩
  | .ok _, .error _ => isFalse nofun
  | .error _, .ok _ => isFalse nofun

/-- The fault of a text that is no code. -/
def SourceError.ofParse (filename : String) : ParseFault → SourceError
  | .nullCharacter => .nullCharacter
  | .malformed fault => .malformed filename fault.line

/-- What the author is told; of a text that is no code only the place is known. -/
def SourceError.message : SourceError → Option String
  | .bodyOnHeadLine filename line name =>
    some (filename ++ ":" ++ toString line ++ ": body of '" ++ name ++
      "' must start on its own line")
  | _ => none

/-- The canonical text of an expression. -/
def textOf (e : Expr) : Except SourceError String := e.text.mapError .unwritable

/-! ## Decorators and kinds -/

/-- The last part of a name or an attribute; a subscript is looked through once. -/
def Code.Expr.tail? : Expr → Option String
  | .subscript _ (.name _ id) _ => some id
  | .subscript _ (.attribute _ _ attr) _ => some attr
  | .name _ id => some id
  | .attribute _ _ attr => some attr
  | _ => none

/-- The decorator that asks for lenses. -/
def markName : String := "autolens"

/-- Whether a decorator asks for lenses, called or not. -/
def isMark : Expr → Bool
  | .call _ func _ _ => func.tail? = some markName
  | e => e.tail? = some markName

/-- Whether a decorator makes a record: the first literal given for `frozen` is `True`. -/
def isRecordDecorator : Expr → Bool
  | .call _ func _ keywords =>
    func.tail? = some "dataclass" &&
    ((keywords.findSome? fun k =>
      match k.name, k.value with
      | some "frozen", .literal _ value => some (value = .bool true)
      | _, _ => none).getD false)
  | _ => false

/-- The bases that make a class an enumeration. -/
def enumerationBases : List String := ["Enum", "IntEnum", "StrEnum", "Flag", "IntFlag", "ReprEnum"]

/-- The bases that make a class a protocol. -/
def protocolBases : List String := ["Protocol"]

/-- The kind of a class. Its bases decide before its decorators do. -/
def classKind (decorators bases : List Expr) : DeclKind :=
  let names := bases.filterMap (·.tail?)
  if names.any enumerationBases.contains then .enumeration
  else if names.any protocolBases.contains then .protocol
  else if decorators.any isRecordDecorator then .record
  else .mutable

/-! ## Values -/

/-- The kind of a literal. -/
def Code.Literal.valueKind : Literal → ValueKind
  | .bool _ => .boolean
  | .int _ => .integer
  | .real _ => .float
  | .text _ _ => .string
  | _ => .other

/-- The kind of a literal behind a sign: only numbers keep theirs. -/
def Code.Literal.signedKind : Literal → ValueKind
  | .int _ => .integer
  | .real _ => .float
  | _ => .other

/-- The literal kind of an expression: that of a literal, or of a number behind one sign. -/
def Code.Expr.valueKind : Expr → ValueKind
  | .literal _ value => value.valueKind
  | .sign _ .plus (.literal _ value) => value.signedKind
  | .sign _ .minus (.literal _ value) => value.signedKind
  | _ => .other

/-- An expression as the initial value of a member. -/
def Code.Expr.classify (e : Expr) : Except SourceError InitialValue := do
  return ⟨e.valueKind, ← textOf e⟩

/-! ## Visibility -/

/-- The tuples that carry visibility, and the modifiers they stand for. -/
def visibilityTuples : List (String × String) :=
  [("__public__", "public"), ("__internal__", "internal"), ("__private__", "private")]

/-- A string literal; text with lone surrogates names nothing. -/
def Code.Expr.string? : Expr → Option String
  | .literal _ (.text ps _) => if ps.all (·.isValidChar) then some (Text.ofPoints ps) else none
  | _ => none

/-- The strings that an expression lists. -/
def listedNames : Expr → List String
  | .tuple _ items | .list _ items | .set _ items => items.filterMap (·.string?)
  | e => e.string?.toList

/-- The names that an assignment to `target` gives a modifier. -/
def namesGiven (value : Expr) : Expr → List (String × String)
  | .name _ id =>
    match visibilityTuples.lookup id with
    | some modifier => (listedNames value).map (·, modifier)
    | none => []
  | _ => []

/-- The names that a statement gives modifiers. -/
def modifiersIn : Stmt → List (String × String)
  | .assign _ targets value => targets.flatMap (namesGiven value)
  | .annotate _ target _ (some value) => namesGiven value target
  | _ => []

/-- The modifiers of a name, in the order of the body. -/
def modifiersOf (body : List Stmt) (name : String) : List String :=
  ((body.flatMap modifiersIn).filter (·.1 = name)).map (·.2)

/-! ## Members -/

/-- Whether a name begins and ends with two underscores. -/
def isReserved (name : String) : Bool :=
  let cs := name.toList
  cs.take 2 = ['_', '_'] && cs.reverse.take 2 = ['_', '_']

/-- What an assignment to a target binds. -/
def bindingOf : Expr → Except SourceError Binding
  | .name _ id => .ok ⟨id, true⟩
  | e => do return ⟨← textOf e, false⟩

/-- The member that a statement declares, given the modifiers of each name. -/
def memberOf (modifiers : String → List String) : Stmt → Except SourceError (Option Member)
  | .annotate span (.name _ id) type value =>
    if isReserved id then return none
    else do
      let text ← textOf type
      let value ← value.mapM (·.classify)
      return some
        { bindings := [⟨id, true⟩], writtenType := some text, value, modifiers := modifiers id,
          isStatic := type.tail? = some "ClassVar", line := span.line }
  | .assign span targets value => do
    let bindings ← targets.mapM bindingOf
    if bindings.any fun b => b.isIdentifier && isReserved b.text then return none
    let value ← value.classify
    let first := match bindings with
      | b :: _ => if b.isIdentifier then b.text else ""
      | [] => ""
    return some
      { bindings, writtenType := none, value := some value, modifiers := modifiers first,
        isStatic := false, line := span.line }
  | _ => return none

/-- The members that a class body declares. -/
def membersOf (body : List Stmt) : Except SourceError (List Member) := do
  return (← body.mapM (memberOf (modifiersOf body))).filterMap id

/-! ## Constructors -/

/-- A parameter of a function, with the stars in front of its name. -/
def parameterOf (stars : String) (kind : ParameterKind) (p : Param) : Except SourceError Parameter := do
  let type ← match p.type with
    | some e => textOf e
    | none => .ok ""
  return ⟨stars ++ p.name, type, kind⟩

/-- The parameters of a constructor behind the first one, which is the record itself. -/
def constructorParameters : Params → Except SourceError (List Parameter)
  | .mk positionalOnly positional variadic keywordOnly keywords => do
    let places := positionalOnly.map (·, ParameterKind.positionalOnly) ++
      positional.map (·, ParameterKind.positionalOrKeyword)
    let front ← (places.drop 1).mapM fun (p, kind) => parameterOf "" kind p
    let star ← variadic.toList.mapM (parameterOf "*" .variadic)
    let named ← keywordOnly.mapM (parameterOf "" .keywordOnly)
    let rest ← keywords.toList.mapM (parameterOf "**" .variadicKeyword)
    return front ++ star ++ named ++ rest

/-- The constructor that a statement defines. -/
def signatureOf : Stmt → Except SourceError (Option Signature)
  | .functionDef span false "__init__" _ params _ => do
    return some ⟨← constructorParameters params, span.line⟩
  | _ => return none

/-- The constructors that a class body defines. -/
def signaturesOf (body : List Stmt) : Except SourceError (List Signature) := do
  return (← body.mapM signatureOf).filterMap id

/-! ## Definitions -/

/-- Join a name to the names around it. -/
def qualify (outer name : String) : String := if outer.isEmpty then name else outer ++ "." ++ name

mutual

/-- The declared definitions in a statement, with their qualified names. Only the bodies of classes
    are looked into. -/
def markedIn (outer : String) : Stmt → List (Stmt × String)
  | .classDef span name decorators bases body =>
    let path := qualify outer name
    (if decorators.any isMark then [(.classDef span name decorators bases body, path)] else []) ++
    markedDefinitions path body
  | .functionDef span isAsync name decorators params body =>
    if decorators.any isMark then
      [(.functionDef span isAsync name decorators params body, qualify outer name)]
    else []
  | _ => []

/-- The declared definitions of a body, in the order of the text. -/
def markedDefinitions (outer : String) : List Stmt → List (Stmt × String)
  | [] => []
  | s :: ss => markedIn outer s ++ markedDefinitions outer ss

end

/-- The indentation of a body: the blank space before its first statement. A body must not start on
    the line of the head. -/
def bodyIndent (filename : String) (head : Span) (name : String) (body : List Stmt)
    (lines : List String) : Except SourceError String :=
  match body with
  | [] => .ok ""
  | first :: _ =>
    if first.span.line = head.line then .error (.bodyOnHeadLine filename head.line name)
    else .ok (((lines[first.span.line - 1]?).map Text.leadingBlanks).getD "")

/-- How the indentation of a body is found. -/
inductive IndentRule
  /-- From the lines of the text. -/
  | measured (lines : List String)
  /-- Four blanks behind the column of the head. -/
  | assumed

/-- The indentation of the body of a definition. -/
def IndentRule.indent (rule : IndentRule) (filename : String) (head : Span) (name : String)
    (body : List Stmt) : Except SourceError String :=
  match rule with
  | .measured lines => bodyIndent filename head name body lines
  | .assumed => .ok (String.ofList (List.replicate (head.column + 4) ' '))

/-- The declaration of a definition. -/
def Declaration.ofDefinition (filename : String) (rule : IndentRule) :
    Stmt × String → Except SourceError (Option Declaration)
  | (.classDef span name decorators bases body, path) => do
    let indent ← rule.indent filename span name body
    return some
      { kind := classKind decorators bases, name, members := ← membersOf body,
        signatures := ← signaturesOf body, qualifiedName := path,
        location := ⟨filename, span.line, span.endLine, span.column, indent⟩ }
  | (.functionDef span _ name _ _ body, path) => do
    let indent ← rule.indent filename span name body
    return some
      { kind := .function, name, members := [], signatures := [], qualifiedName := path,
        location := ⟨filename, span.line, span.endLine, span.column, indent⟩ }
  | _ => return none

/-- The declarations of a module. -/
def Declaration.ofModule (filename : String) (rule : IndentRule) (body : List Stmt) :
    Except SourceError (List Declaration) := do
  return (← (markedDefinitions "" body).mapM (ofDefinition filename rule)).filterMap id

/-- The statements of a text. -/
def parseSource (filename text : String) : Except SourceError (List Stmt) :=
  (Module.parse text).mapError (.ofParse filename)

/-- The declarations of a text, in the order of the text. -/
def Declaration.parseAll (filename text : String) : Except SourceError (List Declaration) := do
  ofModule filename (.measured (Text.displayLines text)) (← parseSource filename text)

end RecordLens
