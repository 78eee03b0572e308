import RecordLens.Text.Quoted
/-!
Documents of texts, numbers, truth values, lists and tables, and the JSON text of a document: one item
a line, two blanks a level, and nothing but ASCII.
-/
namespace RecordLens

/-- Data for other programs. -/
inductive Document
  | text (s : String)
  | number (n : Nat)
  | flag (b : Bool)
  | list (items : List Document)
  | table (rows : List (String × Document))
deriving Repr, Inhabited

namespace Document

/-- `\u` and the four digits of a code unit. -/
def unitEscape (n : Nat) : List Nat := Text.backslash :: 117 :: Text.hexDigits 4 n

/-- A code point between the quotes of a JSON text. Beyond the first plane it takes two units. -/
def escapedPoint (p : Nat) : List Nat :=
  if p = Text.doubleQuote ∨ p = Text.backslash then [Text.backslash, p]
  else if p = 10 then [Text.backslash, 110]
  else if p = 13 then [Text.backslash, 114]
  else if p = 9 then [Text.backslash, 116]
  else if p = 12 then [Text.backslash, 102]
  else if p = 8 then [Text.backslash, 98]
  else if 32 ≤ p ∧ p ≤ 126 then [p]
  else if p < 0x10000 then unitEscape p
  else unitEscape (0xD800 + (p - 0x10000) / 0x400) ++ unitEscape (0xDC00 + (p - 0x10000) % 0x400)

/-- A JSON text in its quotes. -/
def quotedText (s : String) : String :=
  "\"" ++ Text.ofPoints ((Text.points s).flatMap escapedPoint) ++ "\""

/-- The start of a line at some level. -/
def lineStart (level : Nat) : String := "\n" ++ String.ofList (List.replicate (2 * level) ' ')

mutual

/-- The JSON text of a document whose lines are at some level. -/
def render (level : Nat) : Document → String
  | .text s => quotedText s
  | .number n => toString n
  | .flag b => if b then "true" else "false"
  | .list items => match items with
    | [] => "[]"
    | first :: others =>
      "[" ++ lineStart (level + 1) ++ render (level + 1) first ++ renderItems (level + 1) others ++
      lineStart level ++ "]"
  | .table rows => match rows with
    | [] => "\x7b\x7d"
    | (key, first) :: others =>
      "\x7b" ++ lineStart (level + 1) ++ quotedText key ++ ": " ++ render (level + 1) first ++
      renderRows (level + 1) others ++ lineStart level ++ "\x7d"

/-- The items of a list behind the first one. -/
def renderItems (level : Nat) : List Document → String
  | [] => ""
  | item :: items => "," ++ lineStart level ++ render level item ++ renderItems level items

/-- The rows of a table behind the first one. -/
def renderRows (level : Nat) : List (String × Document) → String
  | [] => ""
  | (key, value) :: rows =>
    "," ++ lineStart level ++ quotedText key ++ ": " ++ render level value ++ renderRows level rows

end

/-- The JSON text of a document. -/
def json (d : Document) : String := d.render 0

end Document
end RecordLens
