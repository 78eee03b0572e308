import RecordLens.Plan.Text
/-!
Private names. Inside a class, a name that begins with two underscores and does not end with two stands
for a longer one, which begins with the name of the class. Generated constructors are written into the
class of their record, and generated lenses into a class of their own.

* `isPrivate`: the names that are private.
* `nameInside`: what a name stands for inside a class.
* `Parameter.inside`, `Instruction.inside`: a function as it stands in a class.
-/
namespace RecordLens

/-- Whether a name is private to the class that it is written in. -/
def isPrivate (name : String) : Bool :=
  let cs := name.toList
  cs.take 2 = ['_', '_'] && cs.reverse.take 2 ≠ ['_', '_']

/-- What a name stands for inside a class. A private one has the name of the class in front, less its
    leading underscores; a class whose name is nothing else makes no name its own. -/
def nameInside (owner name : String) : String :=
  let stem := owner.toList.dropWhile (· = '_')
  if isPrivate name && !stem.isEmpty then "_" ++ String.ofList stem ++ name else name

/-- A parameter inside a class. -/
def Parameter.inside (owner : String) (p : Parameter) : Parameter :=
  { p with name := nameInside owner p.name }

/-- An instruction inside a class: fields are named by strings, which stay as they are. -/
def Instruction.inside (owner : String) : Instruction → Instruction
  | .create => .create
  | .store field name => .store field (nameInside owner name)
  | .giveBack => .giveBack

theorem nameInside_of_not_isPrivate {owner name : String} (h : isPrivate name = false) :
    nameInside owner name = name := by
  simp only [nameInside, h, Bool.false_and, Bool.false_eq_true, if_false]

end RecordLens
