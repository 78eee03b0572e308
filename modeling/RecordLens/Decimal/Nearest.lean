/-!
Floating-point numbers of 64 bits and the reading of decimal text into them. A number is held as
`m · 2 ^ e`, so that reading and writing are exact arithmetic on `Nat` and `Int`.
-/
namespace RecordLens.Decimal

/-- A non-negative number of the 64-bit format: `mantissa · 2 ^ exponent` with
    `mantissa < 2 ^ 53` and `-1074 ≤ exponent`, or infinity. -/
inductive Binary64
  | finite (mantissa : Nat) (exponent : Int)
  | infinite
deriving DecidableEq, Repr, Inhabited

/-- `2 ^ e` split into a numerator and a denominator. -/
def twoPower (e : Int) : Nat × Nat :=
  if 0 ≤ e then (Nat.pow 2 e.toNat, 1) else (1, Nat.pow 2 (-e).toNat)

/-- `num / den` to the nearest natural number, a half to the even neighbour. -/
def divNearest (num den : Nat) : Nat :=
  let q := num / den
  let r := num % den
  if 2 * r < den then q
  else if den < 2 * r then q + 1
  else if q % 2 = 0 then q else q + 1

/-- The exponent at which `num / den` is cut: 53 bits of it are kept, fewer near zero. -/
def cutExponent (num den : Nat) : Int :=
  let guess : Int := (Nat.log2 num : Int) - Nat.log2 den - 52
  let (up, down) := twoPower guess
  let e := if num < Nat.pow 2 52 * den * up / down then guess - 1 else guess
  max e (-1074)

/-- The number of the format nearest to the quotient `num / den`. -/
def nearestQuotient (num den : Nat) : Binary64 :=
  if num = 0 then .finite 0 0
  else
    let e := cutExponent num den
    let (up, down) := twoPower e
    let m := divNearest (num * down) (den * up)
    let (m, e) := if m = Nat.pow 2 53 then (Nat.pow 2 52, e + 1) else (m, e)
    if 971 < e then .infinite else .finite m e

/-- The number of the format nearest to `digits · 10 ^ scale`. A value that is far outside the
    range of the format is settled before any large power is computed. -/
def nearest (digits : Nat) (scale : Int) : Binary64 :=
  let bits : Int := Nat.log2 digits
  if digits = 0 then .finite 0 0
  else if 320 < bits * 3 / 10 + scale then .infinite
  else if bits * 31 / 100 + 1 + scale < -330 then .finite 0 0
  else if 0 ≤ scale then nearestQuotient (digits * Nat.pow 10 scale.toNat) 1
  else nearestQuotient digits (Nat.pow 10 (-scale).toNat)

end RecordLens.Decimal
