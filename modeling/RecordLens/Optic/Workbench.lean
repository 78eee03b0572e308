import RecordLens.Optic.Registry
/-!
Registries among things that change. A caller makes mappings of references to lenses and changes them,
makes registries of what mappings hold, and takes lists of references, which it may change as well. A
registry holds a copy of its own, made when the registry was made; a caller sees it through a view that
cannot be written.

* `Workbench`: the mappings, the registries and the lists that there are.
* `Query`, `Registry.answer`, `Workbench.ask`: what a registry is asked, and what it answers.
* `Action`, `Workbench.act`: what a caller does.
* `Workbench.run`: one action after the other; those that fail change nothing.
-/
namespace RecordLens

variable {α : Type}

/-- What a mapping holds: each reference once, in the order in which they first came. -/
abbrev Contents (α : Type) := List (FieldRef × α)

namespace Contents

/-- The contents of a mapping of some entries. -/
def ofEntries (given : List (FieldRef × α)) : Contents α :=
  given.foldl (fun contents entry => placeEntry entry contents) []

/-- Take a reference out, which has to be there. -/
def remove (ref : FieldRef) (c : Contents α) : Except Fault (Contents α) :=
  if ref ∈ c.map (·.1) then .ok (c.filter (·.1 ≠ ref)) else .error .noName

end Contents

/-! ## Answers -/

/-- What a registry can be asked. -/
inductive Query
  | owner
  | lookup (ref : FieldRef)
  | contains (ref : FieldRef)
  /-- The references, one by one or as a list. -/
  | refs
  /-- The references and their lenses, as they are seen through the view. -/
  | entries
  | size

/-- What a registry answers. -/
inductive Answer (α : Type)
  | text (s : String)
  | lens (l : α)
  | truth (b : Bool)
  | refs (refs : List FieldRef)
  | entries (contents : Contents α)
  | number (n : Nat)

/-- What a registry answers. -/
def Registry.answer (r : Registry α) : Query → Except Fault (Answer α)
  | .owner => .ok (.text r.owner)
  | .lookup ref => do return .lens (← r.lookup ref)
  | .contains ref => .ok (.truth (r.contains ref))
  | .refs => .ok (.refs r.refs)
  | .entries => .ok (.entries r.entries)
  | .size => .ok (.number r.size)

/-! ## The workbench -/

/-- A registry on a workbench: its owner, and the place of what it holds. -/
structure Holder where
  owner : String
  place : Nat
deriving DecidableEq, Repr

/-- What there is. Mappings and registries refer to what they hold by its place, so that two of them could
    hold the same. -/
structure Workbench (α : Type) where
  contents : List (Contents α)
  /-- The mappings of the caller, who may change what they hold. -/
  mappings : List Nat
  registries : List Holder
  lists : List (List FieldRef)

/-- What the entries of a new registry are taken from. -/
inductive Source
  | mapping (m : Nat)
  /-- The view of what a registry holds. -/
  | view (r : Nat)

/-- What a caller does. Mappings, registries and lists are numbered in the order in which they were made. -/
inductive Action (α : Type)
  | makeMapping (given : List (FieldRef × α))
  | put (m : Nat) (entry : FieldRef × α)
  | remove (m : Nat) (ref : FieldRef)
  | clear (m : Nat)
  | makeRegistry (owner : String) (source : Source)
  /-- Write an entry through the view of a registry. -/
  | assign (r : Nat) (ref : FieldRef) (lens : α)
  /-- Take the list of the references of a registry. -/
  | takeRefs (r : Nat)
  /-- Change a list in any way. -/
  | changeList (l : Nat) (items : List FieldRef)
  | ask (r : Nat) (q : Query)

namespace Workbench

/-- A workbench with nothing on it. -/
def empty : Workbench α := ⟨[], [], [], []⟩

/-- What has this place in a list of things, if there is such a thing. -/
def thing {β : Type} (things : List β) (place : Nat) : Except Fault β :=
  match things[place]? with
  | some x => .ok x
  | none => .error .noName

/-- A registry as it is at present. -/
def registry (w : Workbench α) (r : Nat) : Except Fault (Registry α) := do
  let holder ← thing w.registries r
  return ⟨holder.owner, ← thing w.contents holder.place⟩

/-- Ask a registry. -/
def ask (w : Workbench α) (r : Nat) (q : Query) : Except Fault (Answer α) := do
  (← w.registry r).answer q

/-- What a source holds. -/
def read (w : Workbench α) : Source → Except Fault (Contents α)
  | .mapping m => do thing w.contents (← thing w.mappings m)
  | .view r => do return (← w.registry r).entries

/-- Other contents in a place. -/
def write (w : Workbench α) (place : Nat) (c : Contents α) : Workbench α :=
  { w with contents := w.contents.set place c }

/-- A mapping of the caller with contents of its own. -/
def addMapping (w : Workbench α) (c : Contents α) : Workbench α :=
  { w with contents := w.contents ++ [c], mappings := w.mappings ++ [w.contents.length] }

/-- A registry with contents of its own. -/
def addRegistry (w : Workbench α) (r : Registry α) : Workbench α :=
  { w with
    contents := w.contents ++ [r.entries]
    registries := w.registries ++ [⟨r.owner, w.contents.length⟩] }

/-- Change what a mapping of the caller holds. -/
def change (w : Workbench α) (m : Nat) (f : Contents α → Except Fault (Contents α)) :
    Except Fault (Workbench α) := do
  let place ← thing w.mappings m
  return w.write place (← f (← thing w.contents place))

/-- What an action makes of the workbench, or why it fails. -/
def act (w : Workbench α) : Action α → Except Fault (Workbench α)
  | .makeMapping given => .ok (w.addMapping (.ofEntries given))
  | .put m entry => w.change m fun c => .ok (placeEntry entry c)
  | .remove m ref => w.change m (Contents.remove ref)
  | .clear m => w.change m fun _ => .ok []
  | .makeRegistry owner source => do return w.addRegistry (.ofEntries owner (← w.read source))
  | .assign r ref lens => do
    let holder ← thing w.registries r
    return w.write holder.place (← (← w.registry r).assign ref lens).entries
  | .takeRefs r => do return { w with lists := w.lists ++ [(← w.registry r).refs] }
  | .changeList l items => do
    discard (thing w.lists l)
    return { w with lists := w.lists.set l items }
  | .ask r q => do
    discard (w.ask r q)
    return w

/-- The workbench behind an action. -/
def after (w : Workbench α) (a : Action α) : Workbench α :=
  match w.act a with
  | .ok new => new
  | .error _ => w

/-- The workbench behind some actions. -/
def run (w : Workbench α) (actions : List (Action α)) : Workbench α := actions.foldl after w

end Workbench
end RecordLens
