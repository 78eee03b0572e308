import RecordLens.Command.Basic
/-!
The program: reads the files that a command line names, prints what the command prints, and writes the
file that it writes.
-/
open RecordLens

/-- What stands at a path of the disk, as far as reading goes. -/
def entryOnDisk (path : String) : IO Entry := do
  try
    return .file (← IO.FS.readBinFile path)
  catch
    | .noFileOrDirectory .. => return .free
    | _ => return .folder

/-- The paths that a command looks at to read from them. -/
def pathsRead : Command → List String
  | .expand file _ => [file]
  | .plan file _ => [file]
  | .check file expanded => file :: expanded.toList

/-- What stands at the paths that a command line names. -/
def entriesFor (words : List String) : IO (List (String × Entry)) := do
  match Request.ofWords words with
  | .ok ⟨_, _, some command⟩ =>
    (pathsRead command).mapM fun path => return (path, ← entryOnDisk path)
  | _ => return []

/-- What a path leads to, by what was found before. -/
def lookAmong (entries : List (String × Entry)) (path : String) : Entry :=
  (entries.lookup path).getD .free

/-- Write the file of an outcome. If there is no folder for it, the outcome says so. -/
def settle (entries : List (String × Entry)) (words : List String) : IO Outcome := do
  let outcome := run (lookAmong entries) words
  match outcome.written with
  | none => return outcome
  | some (path, text) =>
    try
      IO.FS.writeFile path text
      return outcome
    catch
      | .noFileOrDirectory .. => return run (lookAmong ((path, .noFolder) :: entries)) words
      | _ => return { outcome with ending := .crashed (.file .isFolder), output := "" }

/-- Run a command line. -/
def main (words : List String) : IO UInt32 := do
  let outcome ← settle (← entriesFor words) words
  IO.print outcome.output
  IO.eprint outcome.errors
  match outcome.ending with
  | .returned status | .exited status => return status.toUInt32
  | .crashed _ =>
    IO.eprintln "autolens: the file cannot be used"
    return 1
