import RecordLens.Declaration.FromCode
/-!
The imports that generated members need: postponed annotations, the module of record fields, and the
names of the library. What a module imports already is not imported again.
-/
namespace RecordLens

open Code

/-- The names of the library that generated members use. -/
def runtimeNames : List String := ["FieldRef", "FocusT", "Lens", "LensRegistry"]

/-- The module of the library. -/
def libraryModule : String := "autolens"

/-- The import of what generated code uses of the library. -/
def runtimeImport : String :=
  "from " ++ libraryModule ++ " import " ++ String.intercalate ", " runtimeNames

/-- The module of imports from the future. -/
def futureModule : String := "__future__"

/-- The import that leaves annotations unevaluated. -/
def futureImport : String := "from __future__ import annotations"

/-- The module that rewritten fields use. -/
def fieldsModule : String := "dataclasses"

/-- The import of that module. -/
def fieldsImport : String := "import dataclasses"

/-- The names that the top level of a module takes from another module, under their own names. -/
def importedNames (tree : List Stmt) (module : String) : List String :=
  tree.flatMap fun
    | .importFrom _ 0 (some m) names =>
      if m = module then (names.filter (·.asName.isNone)).map (·.name) else []
    | _ => []

/-- Whether the top level of a module imports another module under its own name. -/
def importsModule (tree : List Stmt) (module : String) : Bool :=
  tree.any fun
    | .importModules _ names => names.any fun a => a.name = module && a.asName.isNone
    | _ => false

/-- Whether a statement is a string on its own. -/
def isTextStatement : Stmt → Bool
  | .evaluate _ (.literal _ (.text _ _)) => true
  | _ => false

/-- Whether a statement imports from the future, or from a module of that name behind dots. -/
def isFutureImport : Stmt → Bool
  | .importFrom _ _ (some m) _ => m = futureModule
  | _ => false

/-- The last line of the imports from the future that start a body, or `before` without any. -/
def futureEnd (before : Nat) : List Stmt → Nat
  | [] => before
  | s :: ss => if isFutureImport s then futureEnd s.span.endLine ss else before

/-- The number of lines that the description of a module and its imports from the future take. -/
def preambleEnd : List Stmt → Nat
  | [] => 0
  | s :: ss => if isTextStatement s then futureEnd s.span.endLine ss else futureEnd 0 (s :: ss)

/-- The number of lines before the place for imports. Without a preamble, comment lines at the top
    stay in front. -/
def headerEnd (tree : List Stmt) (lines : List String) : Nat :=
  match preambleEnd tree with
  | 0 => (lines.takeWhile fun line => line.toList.head? = some '#').length
  | n => n

/-- The imports that a module lacks. -/
def missingImports (tree : List Stmt) (needsFields : Bool) : List String :=
  (if (importedNames tree futureModule).contains "annotations" then [] else [futureImport]) ++
  (if needsFields && !importsModule tree fieldsModule then [fieldsImport] else []) ++
  (if runtimeNames.all (importedNames tree libraryModule).contains then [] else [runtimeImport])

/-- The lines that bring in missing imports, with empty lines around them where text stands: above
    unless they come first, and below unless a blank line follows. -/
def importBlock (tree : List Stmt) (lines : List String) (needsFields : Bool) : Nat × List String :=
  let place := headerEnd tree lines
  match missingImports tree needsFields with
  | [] => (place, [])
  | imports =>
    let above := if 0 < place then [""] else []
    let below := match lines[place]? with
      | some line => if Text.isBlankLine line then [] else [""]
      | none => [""]
    (place, above ++ imports.intersperse "" ++ below)

end RecordLens
