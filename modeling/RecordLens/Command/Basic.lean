import RecordLens.Command.Arguments
import RecordLens.Command.Files
import RecordLens.Command.Report
import RecordLens.Command.Trace
/-!
The commands. What a command line does depends on what stands at the paths it names, and on nothing
else; it prints two texts, it ends in some way, and it writes at most one file.

* `run`: what a command line does.
* `runIn`: the same on a tree of files.
-/
namespace RecordLens

/-- Failures that no command has an answer to. -/
inductive Crash
  | file (fault : FileFault)
  | source (fault : SourceError)
  /-- The name of a file was lost between the words of the command line. -/
  | lostName
deriving DecidableEq, Repr

/-- How a command ends. -/
inductive Ending
  /-- The command ran and gave a status. -/
  | returned (status : Nat)
  /-- The command line was not run. -/
  | exited (status : Nat)
  | crashed (crash : Crash)
deriving DecidableEq, Repr

/-- What a command leaves behind. -/
structure Outcome where
  ending : Ending
  output : String := ""
  errors : String := ""
  /-- The path and the text of the file that is written. -/
  written : Option (String × String) := none
deriving DecidableEq, Repr

/-- Lines as a text. -/
def textOfLines (lines : List String) : String := String.join (lines.map (· ++ "\n"))

namespace Outcome

/-- An outcome with more text in front of its errors. -/
def after (o : Outcome) (lines : List String) : Outcome :=
  { o with errors := textOfLines lines ++ o.errors }

/-- What a fault of a file comes to. A file that is not there is reported. -/
def ofFileFault (style : Style) (path : String) : FileFault → Outcome
  | .notFound =>
    { ending := .returned 1,
      errors := textOfLines [style.failure ("File not found: " ++ (Path.ofText path).text)] }
  | fault => { ending := .crashed (.file fault) }

/-- What a fault of a text comes to. Text that is no code is reported. -/
def ofSourceError (style : Style) : SourceError → Outcome
  | .malformed filename line => reported (filename ++ ":" ++ toString line ++ ": <syntax error>")
  | .bodyOnHeadLine filename line name =>
    reported (((SourceError.bodyOnHeadLine filename line name).message).getD "")
  | fault => { ending := .crashed (.source fault) }
where
  reported (message : String) : Outcome :=
    { ending := .returned 1, errors := textOfLines [style.failure ("Syntax error: " ++ message)] }

end Outcome

/-- The diagnostics as lines. -/
def Expansion.report (e : Expansion) (style : Style) : List String :=
  e.diagnostics.map style.diagnostic

/-! ## What follows an expansion -/

/-- Write the expanded text, to a file if one is named. -/
def Expansion.deliver (e : Expansion) (look : String → Entry) (style : Style) (file : String)
    (output : Option String) : Outcome :=
  if !e.success then
    { ending := .returned 1,
      errors := textOfLines [style.failure (file ++ ": " ++ toString e.errors.length ++
        " error(s), nothing written")] }
  else match output.filter (· ≠ "") with
    | none => { ending := .returned 0, output := e.text }
    | some path =>
      match (look path).write with
      | .error fault => .ofFileFault style path fault
      | .ok () =>
        { ending := .returned 0, written := some (path, e.text),
          output := textOfLines [style.success (file ++ " → " ++ path ++ " (" ++
            toString e.plans.length ++ " declaration(s))")] }

/-- The status of a command that has expanded a text. -/
def Expansion.status (e : Expansion) : Ending := .returned (if e.success then 0 else 1)

/-- Compare the expanded text with a file. -/
def Expansion.compare (e : Expansion) (look : String → Entry) (style : Style) (file : String)
    (expanded : Option String) : Outcome :=
  if !e.success then { ending := .returned 1 }
  else match expanded with
    | none => { ending := .crashed .lostName }
    | some path =>
      let name := (Path.ofText path).text
      let stale (message : String) : Outcome :=
        { ending := .returned 1, output := textOfLines [style.failure (name ++ message)] }
      match (look path).isThere with
      | .error fault => .ofFileFault style path fault
      | .ok false => stale " does not exist"
      | .ok true =>
        match (look path).read with
        | .error fault => .ofFileFault style path fault
        | .ok text =>
          if text = e.text then
            { ending := .returned 0, output := textOfLines [style.success (name ++ " is up to date")] }
          else stale (" is out of date; rerun: autolens expand " ++ file ++ " -o " ++ name)

/-! ## Commands -/

/-- Read and expand a file, and go on with the expansion. -/
def withExpansion (look : String → Entry) (request : Request) (file : String)
    (next : Style → Expansion → Outcome) : Outcome :=
  let style : Style := ⟨request.colours⟩
  match (look file).read with
  | .error fault => .ofFileFault style file fault
  | .ok text =>
    let outcome := match expand file text with
      | .error fault => Outcome.ofSourceError style fault
      | .ok e => next style e
    if request.verbose then outcome.after (expansionTrace file text) else outcome

/-- Run a command. -/
def Command.run (look : String → Entry) (request : Request) : Command → Outcome
  | .expand file output =>
    withExpansion look request file fun style e =>
      (e.deliver look style file output).after (e.report style)
  | .plan file asDocument =>
    withExpansion look request file fun style e =>
      if asDocument then { ending := e.status, output := (e.summary file).json ++ "\n" }
      else
        { ending := e.status, output := textOfLines (style.listing file e),
          errors := textOfLines (e.report style) }
  | .check file expanded =>
    withExpansion look request file fun style e =>
      (e.compare look style file expanded).after (e.report style)

/-- What a command line does, given what stands at paths. -/
def run (look : String → Entry) (words : List String) : Outcome :=
  match Request.ofWords words with
  | .error (.help text) => { ending := .exited 0, output := text }
  | .error (.misuse text) => { ending := .exited 2, errors := text }
  | .ok request =>
    match request.command with
    | none => { ending := .returned 0, output := mainForm.helpText }
    | some command => command.run look request

/-- What a command line does to a tree of files. -/
def runIn (tree : Tree) (words : List String) : Outcome × Tree :=
  let outcome := run tree.entry words
  match outcome.written with
  | none => (outcome, tree)
  | some (path, text) => (outcome, tree.put path text.toUTF8)

end RecordLens
