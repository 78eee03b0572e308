import RecordLens.Text.CompositionData
import RecordLens.Text.Quoted
/-!
The normal form of identifiers: characters are taken apart into plain ones and combining marks, the
marks are put in order, and what can be composed is composed again. Identifiers are the same if their
normal forms are.
-/
namespace RecordLens.Text

/-! ## Syllables of Hangul -/

def syllableBase : Nat := 0xAC00
def leadBase : Nat := 0x1100
def vowelBase : Nat := 0x1161
def tailBase : Nat := 0x11A7

/-- The letters of a syllable. -/
def syllableLetters (p : Nat) : List Nat :=
  let i := p - syllableBase
  let letters := [leadBase + i / 588, vowelBase + i % 588 / 28]
  if i % 28 = 0 then letters else letters ++ [tailBase + i % 28]

/-- The syllable of two parts: a lead and a vowel, or a syllable without a tail and a tail. -/
def syllable? (a b : Nat) : Option Nat :=
  if leadBase ≤ a && a < leadBase + 19 && vowelBase ≤ b && b < vowelBase + 21 then
    some (syllableBase + ((a - leadBase) * 21 + (b - vowelBase)) * 28)
  else if syllableBase ≤ a && a < syllableBase + 11172 && (a - syllableBase) % 28 = 0 &&
      tailBase < b && b < tailBase + 28 then
    some (a + (b - tailBase))
  else none

/-! ## Taking apart -/

/-- The full decomposition of a code point. -/
def decompose (p : Nat) : List Nat :=
  if p < 128 then [p]
  else if syllableBase ≤ p && p < syllableBase + 11172 then syllableLetters p
  else match findEntry decompositions p with
    | start :: count :: first :: rest =>
      if p < start + count then
        if rest.isEmpty then [first + (p - start)] else first :: rest
      else [p]
    | _ => [p]

/-- How a mark combines with what it stands behind; 0 for characters that are no marks. -/
def combiningClass (p : Nat) : Nat :=
  if p < 128 then 0
  else match findEntry combiningClasses p with
    | [start, count, value] => if p < start + count then value else 0
    | _ => 0

/-- Put a mark in its place among the marks before it, the last of which comes first. -/
def placeMark (p : Nat) : List Nat → List Nat
  | [] => [p]
  | q :: qs =>
    if combiningClass p < combiningClass q then q :: placeMark p qs else p :: q :: qs

/-- Order the marks behind each character by their classes, keeping marks of one class in order.
    `done` holds what has been ordered, the last one first. -/
def orderMarks (done : List Nat) : List Nat → List Nat
  | [] => done.reverse
  | p :: ps => orderMarks (if combiningClass p = 0 then p :: done else placeMark p done) ps

/-! ## Putting together -/

/-- The place of a mark in a list of pairs, and what stands with it. -/
def partner (b : Nat) : List Nat → Option Nat
  | c :: value :: rest => if c = b then some value else partner b rest
  | _ => none

/-- What two code points compose to. -/
def compose? (a b : Nat) : Option Nat :=
  match syllable? a b with
  | some s => some s
  | none =>
    match findEntry compositions a with
    | c :: pairs => if c = a then partner b pairs else none
    | [] => none

/-- Compose marks with the character they follow. `starter` is that character, `marks` are those
    behind it that did not compose, the last one first. A mark is blocked by one of the same class
    or of a higher one before it. -/
def composeFrom (starter : Nat) (marks : List Nat) : List Nat → List Nat
  | [] => starter :: marks.reverse
  | p :: ps =>
    let blocked := match marks with
      | [] => false
      | m :: _ => combiningClass p ≤ combiningClass m
    match if blocked then none else compose? starter p with
    | some s => composeFrom s marks ps
    | none =>
      if combiningClass p = 0 then starter :: marks.reverse ++ composeFrom p [] ps
      else composeFrom starter (p :: marks) ps

/-- Compose a sequence in order. Marks before the first character stay as they are. -/
def composeAll : List Nat → List Nat
  | [] => []
  | p :: ps => if combiningClass p = 0 then composeFrom p [] ps else p :: composeAll ps

/-- The normal form of an identifier. -/
def normalForm (s : String) : String :=
  if s.toList.all (·.toNat < 128) then s
  else ofPoints (composeAll (orderMarks [] ((points s).flatMap decompose)))

end RecordLens.Text
