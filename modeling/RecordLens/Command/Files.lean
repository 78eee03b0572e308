import RecordLens.Text.Lines
/-!
Paths, and a tree of files below a folder. What stands at a path decides whether a file can be read
from there and whether one can be written there.

* `Path.ofText`, `Path.text`: read a path and print it in its plain form.
* `Tree.entry`: what stands at a path of a tree.
* `Entry.read`, `Entry.write`: whether a file can be read or written there.
-/
namespace RecordLens

/-! ## Paths -/

/-- A path, cut at its slashes. -/
structure Path where
  /-- The slashes in front, if the path does not start from the folder one is in. -/
  root : String
  parts : List String
deriving DecidableEq, Repr, Inhabited

namespace Path

/-- The pieces of a text between slashes. -/
def cut : List Char → List (List Char)
  | [] => [[]]
  | c :: cs =>
    if c = '/' then [] :: cut cs
    else match cut cs with
      | [] => [[c]]
      | piece :: pieces => (c :: piece) :: pieces

/-- Two slashes in front stay two; any other number of them is one. -/
def rootOf (cs : List Char) : String :=
  match (cs.takeWhile (· = '/')).length with
  | 0 => ""
  | 2 => "//"
  | _ => "/"

/-- Read a path. Empty parts and single points say nothing. -/
def ofText (s : String) : Path :=
  ⟨rootOf s.toList, ((cut s.toList).map String.ofList).filter fun p => p ≠ "" ∧ p ≠ "."⟩

/-- The plain form of a path. -/
def text (p : Path) : String :=
  if p.root = "" ∧ p.parts = [] then "." else p.root ++ String.intercalate "/" p.parts

end Path

/-! ## What stands at a path -/

/-- Why a file cannot be read or written. -/
inductive FileFault
  | notFound | isFolder | behindFile | notText | badName | longName
deriving DecidableEq, Repr

/-- What a path leads to. -/
inductive Entry
  | file (content : ByteArray)
  | folder
  /-- Nothing, in a folder that is there. -/
  | free
  /-- Nothing, and there is no folder for it either. -/
  | noFolder
  /-- A file stands where the path wants a folder. -/
  | behindFile
  /-- The path holds a character that no name can have. -/
  | badName
  /-- The path holds a name that is too long. -/
  | longName

namespace Entry

/-- The text of the bytes, with line feeds for all line ends. -/
def decode (content : ByteArray) : Except FileFault String :=
  match String.fromUTF8? content with
  | some s => .ok (String.ofList (Text.unifyLineEnds s.toList))
  | none => .error .notText

/-- Read a text. -/
def read : Entry → Except FileFault String
  | .file content => decode content
  | .folder => .error .isFolder
  | .free | .noFolder => .error .notFound
  | .behindFile => .error .behindFile
  | .badName => .error .badName
  | .longName => .error .longName

/-- Whether a file can be written. -/
def write : Entry → Except FileFault Unit
  | .file _ | .free => .ok ()
  | .folder => .error .isFolder
  | .noFolder => .error .notFound
  | .behindFile => .error .behindFile
  | .badName => .error .badName
  | .longName => .error .longName

/-- Whether there is anything. -/
def isThere : Entry → Except FileFault Bool
  | .file _ | .folder => .ok true
  | .free | .noFolder | .behindFile | .badName => .ok false
  | .longName => .error .longName

end Entry

/-! ## Trees -/

/-- A place relative to the top of a tree: so many folders up from it, then down. -/
structure Place where
  up : Nat
  down : List String
deriving DecidableEq, Repr

/-- The files below a folder. Folders are there because of the files in them. -/
abbrev Tree := List (Place × ByteArray)

namespace Tree

/-- What stands at a place. -/
def at? (tree : Tree) (place : Place) : Option Entry :=
  match tree.lookup place with
  | some content => some (.file content)
  | none =>
    if place.down = [] ∨ tree.any fun (p, _) => p.up = place.up ∧ place.down.isPrefixOf p.down then
      some .folder
    else none

/-- The place of a part seen from a folder. -/
def stepTo (place : Place) (part : String) : Place :=
  if part ≠ ".." then { place with down := place.down ++ [part] }
  else if place.down = [] then { place with up := place.up + 1 }
  else { place with down := place.down.dropLast }

/-- Follow the parts of a path: its place, or what keeps it from having one. -/
def follow (tree : Tree) (place : Place) : List String → Except Entry Place
  | [] => .ok place
  | part :: parts =>
    match tree.at? place with
    | some .folder => follow tree (stepTo place part) parts
    | some _ => .error .behindFile
    | none => .error .noFolder

/-- The place of a path. Nothing is known outside of the tree but that the root is a folder. -/
def place (tree : Tree) (p : Path) : Except Entry Place :=
  if p.parts.any (·.toList.contains '\x00') then .error .badName
  else if p.parts.any (255 < ·.utf8ByteSize) then .error .longName
  else if p.root = "" then tree.follow ⟨0, []⟩ p.parts
  else if p.parts = [] then .error .folder
  else .error .noFolder

/-- What stands at a path. -/
def entry (tree : Tree) (path : String) : Entry :=
  match tree.place (Path.ofText path) with
  | .ok place => (tree.at? place).getD .free
  | .error e => e

/-- Put a file at a place. -/
def putAt (place : Place) (content : ByteArray) : Tree → Tree
  | [] => [(place, content)]
  | e :: es => if e.1 = place then (place, content) :: es else e :: putAt place content es

/-- Write a file, if it can be written there. -/
def put (tree : Tree) (path : String) (content : ByteArray) : Tree :=
  match tree.place (Path.ofText path), (tree.entry path).write with
  | .ok place, .ok () => putAt place content tree
  | _, _ => tree

end Tree
end RecordLens
