import RecordLens.Optic.Registry
import RecordLens.Plan.Running
/-!
What the two generated classes of a record define: the class of tokens, and the class of lenses with
the registry that maps tokens to lenses. An expression of the generated text is kept as what it names,
and read in the module that the text stands in.

The definitions are read as they are written. `Lens`, `FieldRef` and `LensRegistry` always mean the
library's own, also where an exposed field of that name hides them in the body of its class, which then
does not run. A private name is kept as it stands, while its class stores it under the name inside.

* `TokenExpr`, `EntryExpr`: the expressions of tokens and of the entries of a registry.
* `Plan.tokens`, `Plan.namedLenses`: the tokens and the lenses, under their names.
* `Plan.registry`: the registry, built from its entries as written.
-/
namespace RecordLens

/-! ## Expressions -/

/-- The expression of a token: a field of an owner, in the module that the text stands in. -/
structure TokenExpr where
  owner : String
  field : String
deriving DecidableEq, Repr

namespace TokenExpr

/-- The text of a token. -/
def text (t : TokenExpr) : String :=
  "FieldRef(\"" ++ t.owner ++ "\", \"" ++ t.field ++ "\", __name__)"

/-- The reference that a token is in a module. -/
def ref (moduleName : String) (t : TokenExpr) : FieldRef := ⟨t.owner, t.field, moduleName⟩

end TokenExpr

/-- The definition of a token in the class of tokens. -/
structure TokenDefinition where
  name : String
  type : String
  value : TokenExpr
deriving DecidableEq, Repr

/-- The line that defines a token. -/
def TokenDefinition.text (d : TokenDefinition) : String :=
  d.name ++ ": FieldRef[" ++ d.value.owner ++ ", " ++ d.type ++ "] = " ++ d.value.text

/-- An entry of a registry: a token, and the name of the lens it is mapped to. -/
structure EntryExpr where
  key : TokenExpr
  lens : String
deriving DecidableEq, Repr

/-- The line of an entry. -/
def EntryExpr.text (e : EntryExpr) : String := e.key.text ++ ": " ++ e.lens ++ ","

/-! ## Classes -/

namespace Plan

/-- The definitions in the class of tokens. -/
def tokenDefinitions (p : Plan) : List TokenDefinition :=
  p.exposedFields.map fun f => ⟨f.name, f.type, ⟨p.path, f.name⟩⟩

/-- The entries of the registry. -/
def entryExprs (p : Plan) : List EntryExpr :=
  p.lenses.map fun l => ⟨⟨p.path, l.field.name⟩, l.field.name⟩

/-- The tokens that the class of tokens defines in a module, each read as written under its written
name. Of two definitions of one name the later one counts. -/
def tokens (p : Plan) (moduleName : String) : List (String × FieldRef) :=
  Attributes.storeAll (p.tokenDefinitions.map fun d => (d.name, d.value.ref moduleName))

/-- The lenses that the class of lenses defines, each under its written name. Of two definitions of one
name the later one counts. -/
def namedLenses {V : Type} (p : Plan) : List (String × Lens RunFault (Attributes V) V) :=
  Attributes.storeAll (p.lenses.map fun l => (l.field.name, p.lens l))

/-- An entry in a module: the lens is the one of its written name among the lenses defined above. -/
def entry {V : Type} (p : Plan) (moduleName : String) (e : EntryExpr) :
    Except RunFault (FieldRef × Lens RunFault (Attributes V) V) :=
  match p.namedLenses.lookup e.lens with
  | some lens => .ok (e.key.ref moduleName, lens)
  | none => .error (.wrongName e.lens)

/-- The registry in a module, from its entries as they are written. -/
def registry {V : Type} (p : Plan) (moduleName : String) :
    Except RunFault (Registry (Lens RunFault (Attributes V) V)) := do
  return .ofEntries p.path (← p.entryExprs.mapM (p.entry moduleName))

end Plan
end RecordLens
