import RecordLens.Optic.Value
/-!
Records with types. A type lists its slots; a constructor takes the slots that are settable, and the
others get their defaults. A record never changes: `replaced` builds another one through the
constructor.

* `RecordType.construct`: build a record.
* `Schema.replaced`: build a record that differs in some fields.
* `Schema.fieldLens`: the lens of a field.
-/
namespace RecordLens

/-- A field of a record type. -/
structure Slot where
  name : String
  default : Option Value := none
  /-- The constructor takes it. -/
  settable : Bool := true
  /-- The constructor takes it by name only. -/
  byNameOnly : Bool := false
deriving Repr, Inhabited

/-- A type of records. -/
structure RecordType where
  name : String
  slots : List Slot
deriving Repr, Inhabited

/-- The record types there are. -/
abbrev Schema := List RecordType

/-- A field of a list of fields. -/
def fieldValue? (name : String) : List (String × Value) → Option Value
  | [] => none
  | (n, v) :: fields => if n = name then some v else fieldValue? name fields

/-! ## Construction -/

namespace RecordType

/-- The slots a constructor takes. -/
def parameters (t : RecordType) : List Slot := t.slots.filter (·.settable)

/-- The slots a constructor takes by position. -/
def positions (t : RecordType) : List Slot := t.parameters.filter (!·.byNameOnly)

/-- No slot without a default follows one with a default among those taken by position. -/
def isLegal (t : RecordType) : Bool :=
  (t.positions.dropWhile (·.default.isNone)).all (·.default.isSome)

/-- The fields of a new record: each settable slot has its argument or its default, each other one
    its default. A slot that is not settable and has no default stays absent. -/
def fieldsFrom (named : List (String × Value)) : List Slot → Except Fault (List (String × Value))
  | [] => .ok []
  | s :: slots => do
    let value := if s.settable then (fieldValue? s.name named).or s.default else s.default
    match value with
    | some v => return (s.name, v) :: (← fieldsFrom named slots)
    | none => if s.settable then .error .wrongKind else fieldsFrom named slots

/-- Build a record from values by position and by name. Each argument has to have a slot that has no
    other argument. -/
def construct (t : RecordType) (byPosition : List Value) (byName : List (String × Value)) :
    Except Fault Value := do
  let placed := (t.positions.map (·.name)).zip byPosition
  if t.positions.length < byPosition.length then throw .wrongKind
  if byName.any fun (n, _) => !(t.parameters.map (·.name)).contains n then throw .wrongKind
  if byName.any fun (n, _) => (placed.map (·.1)).contains n then throw .wrongKind
  return .record t.name (← fieldsFrom (placed ++ byName) t.slots)

end RecordType

/-! ## Fields of values -/

/-- The numbers that every number carries as attributes. -/
def numberAttribute? (n : Int) (name : String) : Option Value :=
  if name = "real" ∨ name = "numerator" then some (.int n)
  else if name = "imag" then some (.int 0)
  else if name = "denominator" then some (.int 1)
  else none

/-- A field of a record, or an attribute of a number. -/
def Value.read (v : Value) (name : String) : Except Fault Value :=
  let found := match v with
    | .record _ fields => fieldValue? name fields
    | _ => v.int?.bind (numberAttribute? · name)
  match found with
  | some value => .ok value
  | Option.none => .error .noAttribute

namespace Schema

/-- The type of a name. -/
def find? (schema : Schema) (name : String) : Option RecordType := List.find? (·.name = name) schema

/-- What the constructor of a changed record is given besides the changes: the old value of each
    settable slot without a change. -/
def changedArguments (whole : Value) (changes : List (String × Value)) :
    List Slot → Except Fault (List (String × Value))
  | [] => .ok []
  | s :: slots => do
    match s.settable, fieldValue? s.name changes with
    | false, some _ => .error .notSettable
    | false, none | true, some _ => changedArguments whole changes slots
    | true, none => do
      let kept ← whole.read s.name
      return (s.name, kept) :: (← changedArguments whole changes slots)

/-- The record with some fields changed. -/
def replaced (schema : Schema) (whole : Value) (changes : List (String × Value)) :
    Except Fault Value :=
  match whole with
  | .record type _ =>
    match schema.find? type with
    | some t => do t.construct [] (changes ++ (← changedArguments whole changes t.slots))
    | none => .error .wrongKind
  | _ => .error .wrongKind

/-! ## Lenses of fields -/

/-- The lens of a field. -/
def fieldLens (schema : Schema) (name : String) : Lens Fault Value Value where
  get whole := whole.read name
  set whole target := schema.replaced whole [(name, target)]
  label := name

end Schema
end RecordLens
