import RecordLens.Optic.Fault
/-!
Registries of lenses, and the types they are attached to. A registry maps references to lenses. It
keeps the order in which the references first came, and nothing changes it.

* `Registry.ofEntries`, `Registry.lookup`: make a registry and ask it.
* `Lineage.registry`: the registry of a type, which may be that of its base.
-/
namespace RecordLens

/-- A registry of lenses `α`. -/
structure Registry (α : Type) where
  owner : String
  /-- Each reference once, in the order in which they first came. -/
  entries : List (FieldRef × α)
deriving Repr

/-- Put an entry into a list: in the place of the one with its reference, else at the end. -/
def placeEntry {α : Type} (entry : FieldRef × α) : List (FieldRef × α) → List (FieldRef × α)
  | [] => [entry]
  | e :: es => if e.1 = entry.1 then (e.1, entry.2) :: es else e :: placeEntry entry es

namespace Registry
variable {α : Type}

/-- The registry of some entries. A repeated reference keeps its first place and its last lens. -/
def ofEntries (owner : String) (given : List (FieldRef × α)) : Registry α :=
  ⟨owner, given.foldl (fun entries entry => placeEntry entry entries) []⟩

/-- The value under a reference. -/
def find? (r : Registry α) (ref : FieldRef) : Option α :=
  (r.entries.find? (·.1 = ref)).map (·.2)

/-- The lens of a reference. -/
def lookup (r : Registry α) (ref : FieldRef) : Except Fault α :=
  match r.find? ref with
  | some lens => .ok lens
  | none => .error (.unknownField r.owner ref)

/-- Whether there is a value under a reference. -/
def contains (r : Registry α) (ref : FieldRef) : Bool := (r.find? ref).isSome

/-- The references, in order. -/
def refs (r : Registry α) : List FieldRef := r.entries.map (·.1)

/-- The number of entries. -/
def size (r : Registry α) : Nat := r.entries.length

/-- Entries cannot be written. -/
def assign (_ : Registry α) (_ : FieldRef) (_ : α) : Except Fault (Registry α) :=
  .error .wrongKind

/-- A short description. -/
def describe (r : Registry α) : String :=
  "<LensRegistry " ++ r.owner ++ " [" ++ String.intercalate ", " (r.refs.map (·.name)) ++ "]>"

end Registry

/-- A reference cannot be written. -/
def FieldRef.assign (_ : FieldRef) : Except Fault FieldRef := .error .readOnly

/-! ## Types that have registries -/

/-- What a type itself has in the place where its lenses go. -/
inductive Attached (α : Type)
  /-- Nothing, so that of the base counts. -/
  | nothing
  /-- A place for lenses without a registry. -/
  | noRegistry
  | registry (r : Registry α)
  /-- Something else in the place of the registry. -/
  | other
deriving Repr

/-- A type that may be marked for lenses and may have them. -/
structure OwnerType (α : Type) where
  qualifiedName : String
  attached : Attached α
  marked : Bool := false
deriving Repr

/-- A type with its bases, the nearest one first. -/
abbrev Lineage (α : Type) := List (OwnerType α)

namespace Lineage
variable {α : Type}

/-- What the nearest type that has something has. -/
def attached : Lineage α → Attached α
  | [] => .nothing
  | t :: bases =>
    match t.attached with
    | .nothing => attached bases
    | a => a

/-- Whether lenses were generated for the type: there is something in the place of the registry. -/
def isExpanded (types : Lineage α) : Bool :=
  match types.attached with
  | .registry _ | .other => true
  | .nothing | .noRegistry => false

/-- The registry of the type. -/
def registry (types : Lineage α) : Except Fault (Registry α) :=
  match types.attached with
  | .registry r => .ok r
  | _ => .error (.notExpanded ((types.head?.map (·.qualifiedName)).getD ""))

/-- The lens of a reference in the registry of the type. -/
def lookup (types : Lineage α) (ref : FieldRef) : Except Fault α := do
  (← types.registry).lookup ref

/-- Whether the type or one of its bases is marked. -/
def isMarked (types : Lineage α) : Bool := types.any (·.marked)

/-- Mark the type itself. -/
def mark : Lineage α → Lineage α
  | [] => []
  | t :: bases => { t with marked := true } :: bases

end Lineage
end RecordLens
