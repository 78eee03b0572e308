import RecordLens.Optic.Record
/-!
Runs of lens operations. A run goes through steps one after the other; each of them makes a value of
those that were made before, and the values that a run has made are all there is to see of it.

* `LensTerm.lens`: lenses that are put together from those of fields.
* `ValueTerm.value`: values that are written down, with records by their constructors.
* `Step.value`: what a step makes, or why it fails.
* `Schema.run`: the values that steps have made.
-/
namespace RecordLens

/-- A lens, as it is put together. -/
inductive LensTerm
  | field (name : String)
  | identity
  | compose (outer inner : LensTerm)
  | concat (first second : LensTerm)
deriving DecidableEq, Repr

/-- The lens that a term stands for. -/
def LensTerm.lens (schema : Schema) : LensTerm → Lens Fault Value Value
  | .field name => schema.fieldLens name
  | .identity => .identity
  | .compose outer inner => (outer.lens schema).compose (inner.lens schema)
  | .concat first second => Value.concat (first.lens schema) (second.lens schema)

/-- A value, as it is written down. -/
inductive ValueTerm
  | none
  | bool (b : Bool)
  | int (n : Int)
  | str (s : String)
  /-- A value that was made before, by its place. -/
  | earlier (place : Nat)
  | tuple (items : List ValueTerm)
  /-- A call of the constructor of a type. -/
  | record (type : String) (byPosition : List ValueTerm) (byName : List (String × ValueTerm))

namespace ValueTerm

mutual

/-- The value of a term. Terms are evaluated from left to right. -/
def value (schema : Schema) (made : List Value) : ValueTerm → Except Fault Value
  | .none => .ok .none
  | .bool b => .ok (.bool b)
  | .int n => .ok (.int n)
  | .str s => .ok (.str s)
  | .earlier place =>
    match made[place]? with
    | some v => .ok v
    | Option.none => .error .noName
  | .tuple items => do return .tuple (← values schema made items)
  | .record type byPosition byName =>
    match schema.find? type with
    | some t => do t.construct (← values schema made byPosition) (← namedValues schema made byName)
    | Option.none => .error .noName

/-- The values of several terms. -/
def values (schema : Schema) (made : List Value) : List ValueTerm → Except Fault (List Value)
  | [] => .ok []
  | t :: ts => do
    let v ← value schema made t
    return v :: (← values schema made ts)

/-- The values of terms that stand under names. -/
def namedValues (schema : Schema) (made : List Value) :
    List (String × ValueTerm) → Except Fault (List (String × Value))
  | [] => .ok []
  | (name, t) :: ts => do
    let v ← value schema made t
    return (name, v) :: (← namedValues schema made ts)

end

end ValueTerm

/-! ## Steps -/

/-- One operation. -/
inductive Step
  | make (t : ValueTerm)
  | get (lens : LensTerm) (whole : ValueTerm)
  | set (lens : LensTerm) (whole target : ValueTerm)
  | modify (lens : LensTerm) (whole : ValueTerm) (f : Value → Except Fault Value)
  /-- Lift a function along a lens, and apply what it becomes several times. -/
  | lift (lens : LensTerm) (whole : ValueTerm) (f : Value → Except Fault Value) (times : Nat)

namespace Step

/-- What a step makes of the values that were made before. -/
def value (schema : Schema) (made : List Value) : Step → Except Fault Value
  | .make t => t.value schema made
  | .get l whole => do (l.lens schema).get (← whole.value schema made)
  | .set l whole target => do
    let w ← whole.value schema made
    (l.lens schema).set w (← target.value schema made)
  | .modify l whole f => do (l.lens schema).modify (← whole.value schema made) f
  | .lift l whole f times => do
    applyTimes ((l.lens schema).lift f) times (← whole.value schema made)

/-- The values behind a step: those before it, and its own unless it fails. -/
def run (schema : Schema) (made : List Value) (step : Step) : List Value :=
  match step.value schema made with
  | .ok v => made ++ [v]
  | .error _ => made

end Step

/-- The values that a run of steps has made. A step that fails makes none, and the run goes on. -/
def Schema.run (schema : Schema) (steps : List Step) : List Value := steps.foldl (Step.run schema) []

end RecordLens
