import RecordLens.Decimal.Nearest
/-!
Writing a floating-point number with the fewest digits that read back as the same number. Among
decimals of that many digits the nearest one is written, and of two equally near the even one.
-/
namespace RecordLens.Decimal

/-- The reals that read as `m · 2 ^ e`, as numerators over the common denominator `4 · den`, where
    the number itself is `4 · num / (4 · den)`. The ends belong to the interval iff `m` is even. -/
structure Interval where
  low : Nat
  value : Nat
  high : Nat
  den : Nat
  closed : Bool

/-- The numbers that are nearer to a double than to any other one. -/
def interval (m : Nat) (e : Int) : Interval :=
  let (up, den) := twoPower e
  -- below a power of two the neighbours lie twice as dense
  let below := if m = Nat.pow 2 52 ∧ -1074 < e then 1 else 2
  { low := (4 * m - below) * up, value := 4 * m * up, high := (4 * m + 2) * up,
    den := 4 * den, closed := m % 2 = 0 }

/-- Whether the decimal `num / den` reads as the number of the interval. -/
def Interval.holds (i : Interval) (num den : Nat) : Bool :=
  let x := num * i.den
  if i.closed then i.low * den ≤ x && x ≤ i.high * den
  else i.low * den < x && x < i.high * den

/-- The decimal point of `num / den`: the least `p ≥ start` with `num / den < 10 ^ p`, searched
    upwards for `fuel` steps. -/
def pointFrom (num den : Nat) : Nat → Int → Int
  | 0, p => p
  | fuel + 1, p =>
    let below := if 0 ≤ p then num < Nat.pow 10 p.toNat * den else num * Nat.pow 10 (-p).toNat < den
    if below then p else pointFrom num den fuel (p + 1)

/-- The digits `d` with `d · 10 ^ (point - count)` in the interval and nearest to its number. -/
def digitsOfLength (i : Interval) (point : Int) (count : Nat) : Option Nat :=
  let scale := point - count
  let (up, down) := if 0 ≤ scale then (Nat.pow 10 scale.toNat, 1) else (1, Nat.pow 10 (-scale).toNat)
  let d := i.value * down / (i.den * up)
  let fits (d : Nat) : Bool := i.holds (d * up) down
  -- twice the distance of the value from the lower decimal, against one step of the grid
  let above := 2 * (i.value * down - d * (i.den * up))
  let step := i.den * up
  let upper := if above < step then false else if step < above then true else d % 2 = 1
  match fits d, fits (d + 1) with
  | true, true => some (if upper then d + 1 else d)
  | true, false => some d
  | false, true => some (d + 1)
  | false, false => none

/-- The shortest digits of a positive number, tried with `count` digits and more. -/
def shortestFrom (i : Interval) (point : Int) : Nat → Nat → Nat × Nat
  | 0, count => (i.value / i.den, count)
  | fuel + 1, count =>
    match digitsOfLength i point count with
    | some d => (d, count)
    | none => shortestFrom i point fuel (count + 1)

/-- Decimal digits of a number, the most significant first; `fuel` bounds their count. -/
def digitsOf : Nat → Nat → List Char → List Char
  | 0, _, acc => acc
  | fuel + 1, n, acc =>
    let acc := Char.ofNat (48 + n % 10) :: acc
    if n < 10 then acc else digitsOf fuel (n / 10) acc

/-- The decimal digits of a natural number. -/
def natDigits (n : Nat) : List Char := digitsOf (n + 1) n []

/-- Without the zeros at the end. -/
def dropZeros (ds : List Char) : List Char := (ds.reverse.dropWhile (· = '0')).reverse

/-- The shortest digits `d₁d₂…` of a number and the point `p` with value `0.d₁d₂… · 10 ^ p`. -/
def shortest (m : Nat) (e : Int) : List Char × Int :=
  if m = 0 then (['0'], 1)
  else
    let i := interval m e
    -- a lower bound of the point from the binary length: log₁₀ 2 is just above 0.3
    let bits : Int := (Nat.log2 m : Int) + e
    let start := if 0 ≤ bits then bits * 3 / 10 else bits * 31 / 100 - 1
    let point := pointFrom i.value i.den 40 start
    let (d, count) := shortestFrom i point 17 1
    let ds := natDigits d
    -- rounding up to a power of ten moves the point
    (dropZeros ds, point + (ds.length - count))

/-- How a number is laid out: the exponents written positionally, and whether a whole number keeps
    `.0` behind it. -/
structure Layout where
  leastPoint : Int
  mostPoint : Int
  keepPoint : Bool

/-- Numbers in program text: positional from `0.0001` to below `10 ^ 16`, with `.0` on whole ones. -/
def Layout.real : Layout := ⟨-3, 16, true⟩

/-- The number before an imaginary mark is laid out the same way, without `.0`. -/
def Layout.imaginary : Layout := ⟨-3, 16, false⟩

/-- An exponent with its sign and two digits at least. -/
def exponentText (x : Int) : String :=
  let ds := natDigits x.natAbs
  let ds := if ds.length < 2 then '0' :: ds else ds
  (if x < 0 then "e-" else "e+") ++ String.ofList ds

/-- Digits with a point, or with an exponent where the point is far off. -/
def Layout.write (layout : Layout) (digits : List Char) (point : Int) : String :=
  if layout.leastPoint ≤ point ∧ point ≤ layout.mostPoint then
    if point ≤ 0 then "0." ++ String.ofList (List.replicate (-point).toNat '0' ++ digits)
    else
      let whole := digits.take point.toNat
      let whole := whole ++ List.replicate (point.toNat - whole.length) '0'
      let tail := digits.drop point.toNat
      if tail.isEmpty then String.ofList whole ++ (if layout.keepPoint then ".0" else "")
      else String.ofList whole ++ "." ++ String.ofList tail
  else
    let head := String.ofList (digits.take 1)
    let tail := digits.drop 1
    head ++ (if tail.isEmpty then "" else "." ++ String.ofList tail) ++ exponentText (point - 1)

/-- The text of a number; infinity is written as a decimal too large for the format. -/
def Binary64.text (layout : Layout) : Binary64 → String
  | .infinite => "1e309"
  | .finite m e =>
    let (digits, point) := shortest m e
    layout.write digits point

end RecordLens.Decimal
