import RecordLens.Text.CharNameData
import RecordLens.Text.DataText
/-!
Characters by their names. The names of Hangul syllables are spelled from the names of their letters,
those of unified ideographs are numbers, and all others are listed.
-/
namespace RecordLens.Text

/-! ## Listed names -/

/-- The words of a name. -/
def nameWords : List Char → List (List Char)
  | [] => [[]]
  | c :: cs =>
    if c = ' ' then [] :: nameWords cs
    else match nameWords cs with
      | [] => [[c]]
      | word :: words => (c :: word) :: words

/-- Where the search for a name is: the words of the name of the last entry and the character behind
    it. -/
structure NameSearch where
  words : List (List Char) := []
  next : Nat := 0
  found : Option Nat := none

/-- Go on over an entry, without the number in front of it. -/
def NameSearch.visit (s : NameSearch) (target : List (List Char)) : List Char → NameSearch
  | shared :: rest =>
    let kept := s.words.take (shared.toNat - 97)
    let words := if rest.isEmpty then kept else kept ++ nameWords rest
    { words, next := s.next + 1, found := if words = target then some s.next else s.found }
  | [] => s

/-- Go on over an entry. -/
def NameSearch.read (target : List (List Char)) (s : NameSearch) (entry : List Char) : NameSearch :=
  match entry.dropWhile (· ≠ ':') with
  | _ :: rest =>
    let number := (entry.takeWhile (· ≠ ':')).foldl (fun n c => n * 32 + digit32 c) 0
    { s with next := number }.visit target rest
  | [] => s.visit target entry

/-- The character that a list has under a name. -/
def listedName (list : String) (name : List Char) : Option Nat :=
  ((list.toList.splitOnP fun c => c = ',' || c = '\n').foldl (NameSearch.read (nameWords name))
    {}).found

/-! ## Names by rules -/

/-- The letters that start a syllable, by their places. -/
def leadNames : List String :=
  ["G", "GG", "N", "D", "DD", "R", "M", "B", "BB", "S", "SS", "", "J", "JJ", "C", "K", "T", "P", "H"]

/-- The vowels. -/
def vowelNames : List String :=
  ["A", "AE", "YA", "YAE", "EO", "E", "YEO", "YE", "O", "WA", "WAE", "OE", "YO", "U", "WEO", "WE",
   "WI", "YU", "EU", "YI", "I"]

/-- The letters that end a syllable. -/
def tailNames : List String :=
  ["", "G", "GG", "GS", "N", "NJ", "NH", "D", "L", "LG", "LM", "LB", "LS", "LT", "LP", "LH", "M", "B",
   "BS", "S", "SS", "NG", "J", "C", "K", "T", "P", "H"]

/-- The longest of some names that a text starts with: its place and what follows. -/
def longestName (names : List String) (text : List Char) : Option (Nat × List Char) :=
  let fitting := names.zipIdx.filter fun (n, _) => n.toList.isPrefixOf text
  (fitting.foldl (fun (best : Option (String × Nat)) (n, i) =>
    match best with
    | some (m, _) => if m.length < n.length then some (n, i) else best
    | none => some (n, i)) none).map fun (n, i) => (i, text.drop n.length)

/-- The syllable that is spelled by a text. -/
def syllableNamed (text : List Char) : Option Nat := do
  let (lead, text) ← longestName leadNames text
  let (vowel, text) ← longestName vowelNames text
  let (tail, text) ← longestName tailNames text
  if text.isEmpty then some (0xAC00 + (lead * 21 + vowel) * 28 + tail) else none

/-- The unified ideographs, by the first and the last of each stretch. -/
def ideographs : List (Nat × Nat) :=
  [(0x3400, 0x4DBF), (0x4E00, 0x9FFF), (0x20000, 0x2A6DF), (0x2A700, 0x2B738), (0x2B740, 0x2B81D),
   (0x2B820, 0x2CEA1), (0x2CEB0, 0x2EBE0), (0x30000, 0x3134A)]

/-- The value of a capital digit in base 16. -/
def capitalDigit? (c : Char) : Option Nat :=
  if c.isDigit then some (c.toNat - 48)
  else if 'A' ≤ c && c ≤ 'F' then some (c.toNat - 55)
  else none

/-- The ideograph with a number of four or five digits. -/
def ideographNamed (digits : List Char) : Option Nat := do
  let number ← digits.foldlM (fun n c => (capitalDigit? c).map (n * 16 + ·)) 0
  if (digits.length = 4 || digits.length = 5) &&
      ideographs.any (fun (first, last) => first ≤ number && number ≤ last) then some number
  else none

/-! ## All names -/

/-- What the names of composed syllables begin with. -/
def syllablePrefix : List Char := "HANGUL SYLLABLE ".toList

/-- What the names of ideographs begin with. -/
def ideographPrefix : List Char := "CJK UNIFIED IDEOGRAPH-".toList

/-- The character with the given name. Listed names may be written in any mixture of cases. -/
def characterNamed (name : List Char) : Option Nat :=
  if syllablePrefix.isPrefixOf name then syllableNamed (name.drop syllablePrefix.length)
  else if ideographPrefix.isPrefixOf name then ideographNamed (name.drop ideographPrefix.length)
  else
    let capitals := name.map Char.toUpper
    (listedName nameText capitals).or (listedName otherNameText capitals)

end RecordLens.Text
