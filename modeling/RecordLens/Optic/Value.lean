import RecordLens.Optic.Fault
import RecordLens.Optic.Lens
/-!
The values that lenses work on: plain values, tuples, and records. A truth value counts as the number
0 or 1 wherever a number is wanted.

* `Value.same`: equality.
* `Value.add`, `Value.times`: sums and multiples of numbers, texts and tuples.
* `Value.itemAt`: one item of a text or a tuple; `Value.item` is the lens of an item.
-/
namespace RecordLens

/-- The values that records hold. -/
inductive Value
  | none
  | bool (b : Bool)
  | int (n : Int)
  | str (s : String)
  | tuple (items : List Value)
  /-- A record of a type, with the values of its fields in the order of the type. -/
  | record (type : String) (fields : List (String × Value))
deriving Repr, Inhabited, BEq

namespace Value

/-- The number that a value counts as. -/
def int? : Value → Option Int
  | .bool b => some (if b then 1 else 0)
  | .int n => some n
  | _ => Option.none

/-! ## Equality -/

mutual

/-- Equality of values. Records are equal if they are of one type and have equal fields. -/
def same : Value → Value → Bool
  | .none, .none => true
  | .bool a, .bool b => a = b
  | .bool a, .int n => n = (if a then 1 else 0)
  | .int m, .bool b => m = (if b then 1 else 0)
  | .int m, .int n => m = n
  | .str s, .str t => s = t
  | .tuple xs, .tuple ys => sameItems xs ys
  | .record type fields, .record type' fields' => type = type' && sameFields fields fields'
  | _, _ => false

/-- Whether items are equal one by one. -/
def sameItems : List Value → List Value → Bool
  | [], [] => true
  | x :: xs, y :: ys => same x y && sameItems xs ys
  | _, _ => false

/-- Whether the values of fields are equal one by one. -/
def sameFields : List (String × Value) → List (String × Value) → Bool
  | [], [] => true
  | (_, x) :: xs, (_, y) :: ys => same x y && sameFields xs ys
  | _, _ => false

end

/-! ## Sums and multiples -/

/-- `x + y`. -/
def add : Value → Value → Except Fault Value
  | .str s, .str t => .ok (.str (s ++ t))
  | .tuple xs, .tuple ys => .ok (.tuple (xs ++ ys))
  | x, y =>
    match x.int?, y.int? with
    | some m, some n => .ok (.int (m + n))
    | _, _ => .error .wrongKind

/-- The least number that is no length. -/
def lengthBound : Int := 9223372036854775808

/-- `n` copies of a list, none if `n` is negative. Both `n` and the length of the result have to be
    lengths. -/
def copies {α : Type} (n : Int) (items : List α) : Except Fault (List α) :=
  if n < -lengthBound ∨ lengthBound ≤ n then .error .tooLarge
  else if lengthBound ≤ n * items.length then .error .tooLarge
  else if items.isEmpty then .ok []
  else .ok (List.replicate n.toNat items).flatten

/-- `x * y`. -/
def times : Value → Value → Except Fault Value
  | .str s, y => match y.int? with
    | some n => return .str (String.ofList (← copies n s.toList))
    | Option.none => .error .wrongKind
  | x, .str t => match x.int? with
    | some n => return .str (String.ofList (← copies n t.toList))
    | Option.none => .error .wrongKind
  | .tuple xs, y => match y.int? with
    | some n => return .tuple (← copies n xs)
    | Option.none => .error .wrongKind
  | x, .tuple ys => match x.int? with
    | some n => return .tuple (← copies n ys)
    | Option.none => .error .wrongKind
  | x, y => match x.int?, y.int? with
    | some m, some n => .ok (.int (m * n))
    | _, _ => .error .wrongKind

/-! ## Items -/

/-- The place of an index in a list: a negative index counts from the end. -/
def place? (length : Nat) (i : Int) : Option Nat :=
  let p := if i < 0 then i + length else i
  if 0 ≤ p ∧ p < length then some p.toNat else Option.none

/-- The end of a slice, which stays within the list. -/
def sliceEnd (length : Nat) (i : Int) : Nat :=
  if i < 0 then (i + length).toNat else Nat.min i.toNat length

/-- An item of a tuple, or a character of a text. -/
def itemAt (v : Value) (i : Int) : Except Fault Value :=
  match v with
  | .tuple xs =>
    match (place? xs.length i).bind (xs[·]?) with
    | some x => .ok x
    | Option.none => .error .outOfRange
  | .str s =>
    match (place? s.length i).bind (s.toList[·]?) with
    | some c => .ok (.str (String.singleton c))
    | Option.none => .error .outOfRange
  | _ => .error .wrongKind

/-- What stands before an index, the value `x`, and what stands behind the index. -/
def putAt (v : Value) (i : Int) (x : Value) : Except Fault Value :=
  match v with
  | .tuple xs =>
    .ok (.tuple (xs.take (sliceEnd xs.length i) ++ x :: xs.drop (sliceEnd xs.length (i + 1))))
  | _ => .error .wrongKind

/-- The lens of an item. Its setter builds the tuple from what stands around the index. -/
def item (i : Int) : Lens Fault Value Value where
  get whole := whole.itemAt i
  set whole target := whole.putAt i target

/-! ## Pairs -/

/-- Pairs as tuples of two; what a setter is given may be longer, or a text. -/
def pairing : Pairing Fault Value Value Value where
  pair x y := .tuple [x, y]
  first both := both.itemAt 0
  second both := both.itemAt 1

/-- Two lenses side by side on values. -/
def concat (a b : Lens Fault Value Value) : Lens Fault Value Value := Lens.concatBy pairing a b

end Value
end RecordLens
