/-!
Tables of numbers kept as text: numbers in base 32 with spaces between them, entries with commas
between them.
-/
namespace RecordLens.Text

/-- The value of a digit in base 32: `0` to `9`, then `a` to `v`. -/
def digit32 (c : Char) : Nat := if c.isDigit then c.toNat - 48 else c.toNat - 87

/-- The entries in a text. `n` is the number and `ns` the numbers of the entry that are being read,
    the last ones first. -/
def readEntries (n : Nat) (ns : List Nat) : List Char → List (List Nat)
  | [] => [(n :: ns).reverse]
  | ' ' :: cs => readEntries 0 (n :: ns) cs
  | ',' :: cs => (n :: ns).reverse :: readEntries 0 [] cs
  | c :: cs => readEntries (n * 32 + digit32 c) ns cs

/-- The table in some lines of text. -/
def readTable (lines : List String) : Array (List Nat) :=
  (lines.flatMap (readEntries 0 [] ·.toList)).toArray

/-- The place of the last entry whose first number is at most `n`, if `low` is one more than the
    place of such an entry or zero. Each step halves the stretch, so `fuel` above its binary length
    is enough. -/
def lastEntry (table : Array (List Nat)) (n : Nat) : Nat → Nat → Nat → Nat
  | 0, low, _ => low
  | fuel + 1, low, high =>
    if low < high then
      let middle := (low + high) / 2
      if ((table.getD middle []).headD 0) ≤ n then lastEntry table n fuel (middle + 1) high
      else lastEntry table n fuel low middle
    else low

/-- The last entry of a sorted table whose first number is at most `n`. -/
def findEntry (table : Array (List Nat)) (n : Nat) : List Nat :=
  match lastEntry table n 40 0 table.size with
  | 0 => []
  | place + 1 => table.getD place []

end RecordLens.Text
