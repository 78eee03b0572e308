import RecordLens.Code.Expr
/-!
What expressions come to when they are run. A literal comes to its own value. A sign acts on the value of its
operand: truth values count as whole numbers, text has no sign. What anything else comes to is up to the
program around it.

* `Datum`, `DataType`: values and their exact types.
* `Datum.sign`: a value behind a sign; `Expr.evaluate`: the value of an expression.
* `Expr.ComesTo`: the value that an expression has in every program.
* `signed_keeps_type_iff`: the literals whose type a sign keeps.
-/
namespace RecordLens.Code

/-! ## Values -/

/-- A floating-point number with its sign, which zero has as well. -/
structure SignedReal where
  negative : Bool
  size : Decimal.Binary64
deriving DecidableEq, Repr

namespace SignedReal

/-- A number with the other sign. -/
def opposite (x : SignedReal) : SignedReal := ⟨!x.negative, x.size⟩

/-- Whether a number is zero, of either sign. -/
def isZero (x : SignedReal) : Bool :=
  match x.size with
  | .finite mantissa _ => mantissa = 0
  | .infinite => false

end SignedReal

/-- The type of a value. A truth value is no whole number here, though its type is derived from theirs. -/
inductive DataType
  | none | ellipsis | bool | int | float | complex | text | bytes
  | other (identity : Nat)
deriving DecidableEq, Repr

/-- How an annotation names the type of a literal. -/
def DataType.literalName? : DataType → Option String
  | .bool => some "bool"
  | .int => some "int"
  | .float => some "float"
  | .complex => some "complex"
  | .text => some "str"
  | .bytes => some "bytes"
  | .none | .ellipsis | .other _ => Option.none

/-- What an expression comes to; an `object` is anything that no literal stands for. -/
inductive Datum
  | none
  | ellipsis
  | bool (value : Bool)
  | int (value : Int)
  | float (value : SignedReal)
  | complex (real imaginary : SignedReal)
  | text (points : List Nat)
  | bytes (values : List Nat)
  | object (type identity : Nat)
deriving DecidableEq, Repr

/-- The type of a value. -/
def Datum.type : Datum → DataType
  | .none => .none
  | .ellipsis => .ellipsis
  | .bool _ => .bool
  | .int _ => .int
  | .float _ => .float
  | .complex _ _ => .complex
  | .text _ => .text
  | .bytes _ => .bytes
  | .object type _ => .other type

/-- The value of a literal, which has no sign of its own. -/
def Literal.datum : Literal → Datum
  | .none => .none
  | .ellipsis => .ellipsis
  | .bool b => .bool b
  | .int n => .int n
  | .real x => .float ⟨false, x⟩
  | .imaginary x => .complex ⟨false, .finite 0 0⟩ ⟨false, x⟩
  | .text points _ => .text points
  | .bytes values => .bytes values

/-! ## Evaluation -/

/-- Why an expression comes to nothing. -/
inductive EvaluationFault
  /-- A sign in front of a value that takes none. -/
  | badOperand (op : SignOp) (type : DataType)
  /-- What the program around the expression raises. -/
  | raised (identity : Nat)
deriving DecidableEq, Repr

/-- The program around an expression: what names, calls, displays and all other forms come to in it, and what
    its objects make of signs. -/
structure Surroundings where
  value : Expr → Except EvaluationFault Datum
  sign : SignOp → (type identity : Nat) → Except EvaluationFault Datum

instance : Inhabited Surroundings := ⟨⟨fun _ => .error (.raised 0), fun _ _ _ => .error (.raised 0)⟩⟩

/-- A sign in front of a whole number. -/
def SignOp.onWhole : SignOp → Int → Datum
  | .plus, n => .int n
  | .minus, n => .int (-n)
  | .invert, n => .int (-n - 1)
  | .negation, n => .bool (n = 0)

/-- Whether a value that is no number counts as false. -/
def Datum.isVoid : Datum → Bool
  | .none => true
  | .float x => x.isZero
  | .complex x y => x.isZero && y.isZero
  | .text points => points.isEmpty
  | .bytes values => values.isEmpty
  | _ => false

/-- A value behind a sign. -/
def Datum.sign (world : Surroundings) (op : SignOp) : Datum → Except EvaluationFault Datum
  | .bool b => .ok (op.onWhole (if b then 1 else 0))
  | .int n => .ok (op.onWhole n)
  | .object type identity => world.sign op type identity
  | d =>
    match op, d with
    | .negation, d => .ok (.bool d.isVoid)
    | .plus, .float x => .ok (.float x)
    | .minus, .float x => .ok (.float x.opposite)
    | .plus, .complex x y => .ok (.complex x y)
    | .minus, .complex x y => .ok (.complex x.opposite y.opposite)
    | op, d => .error (.badOperand op d.type)

/-- The value of an expression. -/
def Expr.evaluate (world : Surroundings) : Expr → Except EvaluationFault Datum
  | .literal _ value => .ok value.datum
  | .sign _ op operand => do (← operand.evaluate world).sign world op
  | e => world.value e

/-- An expression raises nothing and has this value, whatever the program around it. -/
def Expr.ComesTo (e : Expr) (d : Datum) : Prop := ∀ world, e.evaluate world = .ok d

variable {span inner : Span} {op : SignOp} {value : Literal} {e : Expr} {d d' : Datum}

theorem comesTo_literal : (Expr.literal span value).ComesTo value.datum := fun _ => rfl

theorem evaluate_signed (world : Surroundings) :
    (Expr.sign span op (.literal inner value)).evaluate world = value.datum.sign world op := rfl

theorem Expr.ComesTo.unique (h : e.ComesTo d) (h' : e.ComesTo d') : d = d' :=
  Except.ok.inj ((h default).symm.trans (h' default))

/-! ## Signs -/

/-- A literal that stands for a number; truth values do not. -/
inductive Literal.IsNumber : Literal → Prop
  | int (n : Nat) : IsNumber (.int n)
  | real (x : Decimal.Binary64) : IsNumber (.real x)
  | imaginary (x : Decimal.Binary64) : IsNumber (.imaginary x)

/-- A sign that a number may have. -/
inductive SignOp.IsSign : SignOp → Prop
  | plus : IsSign .plus
  | minus : IsSign .minus

theorem signed_bool (hop : op.IsSign) (b : Bool) :
    ∃ n, (Expr.sign span op (.literal inner (.bool b))).ComesTo (.int n) := by
  cases hop with
  | plus => exact ⟨_, fun _ => rfl⟩
  | minus => exact ⟨_, fun _ => rfl⟩

example (world : Surroundings) :
    (Expr.sign default .minus (.literal default (.bool true))).evaluate world = .ok (.int (-1)) := rfl

theorem signed_fault (hop : op.IsSign) (hnumber : ¬value.IsNumber) (hbool : value.datum.type ≠ .bool)
    (world : Surroundings) : (Expr.sign span op (.literal inner value)).evaluate world =
      .error (.badOperand op value.datum.type) := by
  rw [evaluate_signed]
  cases value with
  | bool b => exact absurd rfl hbool
  | int n => exact absurd (.int n) hnumber
  | real x => exact absurd (.real x) hnumber
  | imaginary x => exact absurd (.imaginary x) hnumber
  | _ => cases hop <;> rfl

/-- **A sign keeps the type of a literal just if that is a number.** -/
theorem signed_keeps_type_iff (hop : op.IsSign) :
    (∃ d, (Expr.sign span op (.literal inner value)).ComesTo d ∧ d.type = value.datum.type) ↔
      value.IsNumber := by
  constructor
  · rintro ⟨d, hd, htype⟩
    cases value with
    | int n => exact .int n
    | real x => exact .real x
    | imaginary x => exact .imaginary x
    | bool b =>
      obtain ⟨n, hn⟩ := @signed_bool span inner op hop b
      rw [hd.unique hn] at htype
      exact DataType.noConfusion htype
    | _ => exact nomatch (hd default).symm.trans (signed_fault hop (by nofun) (by nofun) default)
  · rintro (n | x | x)
    · cases hop with
      | plus => exact ⟨.int n, fun _ => rfl, rfl⟩
      | minus => exact ⟨.int (-n), fun _ => rfl, rfl⟩
    · cases hop with
      | plus => exact ⟨.float ⟨false, x⟩, fun _ => rfl, rfl⟩
      | minus => exact ⟨.float ⟨true, x⟩, fun _ => rfl, rfl⟩
    · cases hop with
      | plus => exact ⟨.complex ⟨false, .finite 0 0⟩ ⟨false, x⟩, fun _ => rfl, rfl⟩
      | minus => exact ⟨.complex ⟨true, .finite 0 0⟩ ⟨true, x⟩, fun _ => rfl, rfl⟩

end RecordLens.Code
