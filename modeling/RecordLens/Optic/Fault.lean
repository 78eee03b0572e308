import RecordLens.Text.Quoted
/-!
References to fields, and the ways in which work with values, lenses and registries fails.
-/
namespace RecordLens

/-- A token for one field of one type. The module tells types of one name apart. -/
structure FieldRef where
  owner : String
  name : String
  moduleName : String := ""
deriving DecidableEq, Repr, Inhabited

namespace FieldRef

/-- The printed name of a reference. Different references may print alike. -/
def path (r : FieldRef) : String :=
  (if r.moduleName.isEmpty then "" else r.moduleName ++ ":") ++ r.owner ++ "." ++ r.name

/-- A short description. -/
def describe (r : FieldRef) : String := "<FieldRef " ++ r.path ++ ">"

end FieldRef

/-- Why a step fails. -/
inductive Fault
  /-- A value of the wrong kind, or arguments that do not fit. -/
  | wrongKind
  | noAttribute
  /-- A name that stands for nothing. -/
  | noName
  | outOfRange
  /-- A field that constructors do not take was given a value. -/
  | notSettable
  /-- A number beyond what a length can be. -/
  | tooLarge
  /-- A write to a reference. -/
  | readOnly
  | unknownField (owner : String) (ref : FieldRef)
  /-- A type without a registry. -/
  | notExpanded (typeName : String)
deriving DecidableEq, Repr, Inhabited

/-- The text of a failure that has one. -/
def Fault.message? : Fault → Option String
  | .unknownField owner ref => some (Text.quote (owner ++ " has no lens for field " ++ ref.path))
  | .notExpanded typeName =>
    some (typeName ++ " was not expanded by autolens (no AllLenses.registry)")
  | _ => none

end RecordLens
