import RecordLens.Text.Quoted
/-!
Reading command lines. A form lists the options and the arguments a command takes. Options may be
shortened to any unambiguous start, short ones may be written together, and a value may be attached
to its option. Whatever fits nothing is left over.

* `Form.read`: read the words of a command line against a form.
* `Request.ofWords`: what a command line asks for.
-/
namespace RecordLens

/-! ## Forms -/

/-- What an option asks for. -/
inductive OptionKey
  | help | noColours | verbose | output | json
deriving DecidableEq, Repr

/-- An option, and how it is written. -/
structure OptionForm where
  key : OptionKey
  names : List String
  takesValue : Bool := false
deriving DecidableEq, Repr

/-- How an option is called in messages. -/
def OptionForm.title (o : OptionForm) : String := String.intercalate "/" o.names

/-- What a command line may hold. -/
structure Form where
  program : String
  usage : String
  /-- The lines of the help behind the usage. -/
  help : List String
  options : List OptionForm
  /-- The names of the arguments. -/
  arguments : List String
  /-- The last argument takes everything behind it too. -/
  takesRest : Bool := false
deriving Repr

/-- Why the reading of a command line ends early. -/
inductive Stop
  /-- Help was asked for. -/
  | help (text : String)
  /-- The words do not fit the form. -/
  | misuse (text : String)
deriving DecidableEq, Repr

namespace Form

/-- The line that shows how a command is used. -/
def usageLine (f : Form) : String := "usage: " ++ f.usage ++ "\n"

/-- What is printed when help is asked for. -/
def helpText (f : Form) : String :=
  f.usageLine ++ String.join (f.help.map (· ++ "\n"))

/-- Stop with the usage and a message. -/
def misuse (f : Form) (message : String) : Stop :=
  .misuse (f.usageLine ++ f.program ++ ": error: " ++ message ++ "\n")

/-- The option of exactly that name. -/
def option? (f : Form) (name : String) : Option OptionForm :=
  f.options.find? (·.names.contains name)

/-! ## The words one by one -/

/-- An option as it is given: the name it was found by, and what is attached to it. The flag tells
    that `=` stands between. -/
structure Given where
  option : OptionForm
  name : String
  attached : Option (Bool × List Char)

/-- What a word of a command line is taken for. -/
inductive Word
  /-- An option, or something that looks like one. -/
  | option (given : Option Given)
  | plain
  /-- The word `--`, behind which nothing is an option. -/
  | divider

/-- Cut a word at the first `=`. -/
def cutAtEquals (word : List Char) : List Char × Option (List Char) :=
  match word.dropWhile (· ≠ '=') with
  | [] => (word, none)
  | _ :: value => (word.takeWhile (· ≠ '='), some value)

/-- Whether a word is a number with a sign; a line end may follow it. -/
def isNegativeNumber : List Char → Bool
  | '-' :: rest =>
    let digits := if rest.getLast? = some '\n' then rest.dropLast else rest
    let fraction := digits.dropWhile Char.isDigit
    match fraction with
    | [] => !digits.isEmpty
    | '.' :: decimals => !decimals.isEmpty && decimals.all Char.isDigit
    | _ => false
  | _ => false

/-- The options that a word may shorten or hold. -/
def candidates (f : Form) (word : List Char) : List Given :=
  match word with
  | '-' :: '-' :: _ =>
    let (start, value) := cutAtEquals word
    f.options.flatMap fun o =>
      (o.names.filter fun n => start.isPrefixOf n.toList).map fun n =>
        ⟨o, n, value.map ((true, ·))⟩
  | '-' :: c :: rest =>
    match f.option? (String.ofList ['-', c]) with
    | some o => [⟨o, String.ofList ['-', c], some (false, rest)⟩]
    | none => []
  | _ => []

/-- What a word is. -/
def wordKind (f : Form) (word : String) : Except Stop Word :=
  match word.toList with
  | '-' :: c :: rest =>
    let cs := '-' :: c :: rest
    let (start, value) := cutAtEquals cs
    match f.option? word, f.option? (String.ofList start), value with
    | some o, _, _ => .ok (.option (some ⟨o, word, none⟩))
    | none, some o, some v => .ok (.option (some ⟨o, String.ofList start, some (true, v)⟩))
    | none, _, _ =>
      match f.candidates cs with
      | [given] => .ok (.option (some given))
      | [] =>
        if isNegativeNumber cs || cs.contains ' ' then .ok .plain else .ok (.option none)
      | several => .error (f.misuse ("ambiguous option: " ++ word ++ " could match " ++
          String.intercalate ", " (several.map (·.name))))
  | _ => .ok .plain

/-- What each word is. -/
def wordKinds (f : Form) : List String → Except Stop (List (String × Word))
  | [] => .ok []
  | word :: words => do
    if word = "--" then return (word, .divider) :: words.map fun w => (w, .plain)
    return (word, ← f.wordKind word) :: (← f.wordKinds words)

/-! ## Options -/

/-- What an option comes to, together with the short options written behind it. -/
structure Unfolded where
  taken : List (OptionKey × Option String) := []
  /-- An option that may still take the next word. -/
  pending : Option OptionForm := none
  leftOver : List String := []

/-- The message for a value that an option does not take. -/
def ignored (f : Form) (o : OptionForm) (value : List Char) : Stop :=
  f.misuse ("argument " ++ o.title ++ ": ignored explicit argument " ++
    Text.quote (String.ofList value))

/-- An option with a value attached to it. -/
def withValue (f : Form) (o : OptionForm) (taken : List (OptionKey × Option String))
    (value : List Char) : Except Stop Unfolded :=
  if o.takesValue then .ok { taken := taken ++ [(o.key, some (String.ofList value))] }
  else .error (f.ignored o value)

/-- Unfold a short option with what is written behind it: its value, or more short options. -/
def unfoldShort (f : Form) (o : OptionForm) (taken : List (OptionKey × Option String)) :
    List Char → Except Stop Unfolded
  | [] => .ok { taken, pending := some o }
  | c :: cs =>
    if c = '=' then f.withValue o taken cs
    else if o.takesValue then f.withValue o taken (c :: cs)
    else if c = '-' then .error (f.ignored o (c :: cs))
    else
      let taken := taken ++ [(o.key, none)]
      match f.option? (String.ofList ['-', c]) with
      | none => .ok { taken, leftOver := [String.ofList ('-' :: c :: cs)] }
      | some next => f.unfoldShort next taken cs

/-- Unfold an option. -/
def Given.unfold (f : Form) (g : Given) : Except Stop Unfolded :=
  match g.attached with
  | none => .ok { pending := some g.option }
  | some (true, value) => f.withValue g.option [] value
  | some (false, value) => f.unfoldShort g.option [] value

/-! ## Reading -/

/-- What was read so far. -/
structure Reading where
  options : List (OptionKey × Option String) := []
  /-- The words of each argument. -/
  arguments : List (List String) := []
  leftOver : List String := []

/-- Whether a word is the one behind which nothing is an option. -/
def isDivider (word : String × Word) : Bool :=
  match word.2 with
  | .divider => true
  | _ => false

/-- Whether a word is taken for an option. -/
def isOption (word : String × Word) : Bool :=
  match word.2 with
  | .option _ => true
  | _ => false

/-- The words of one argument, a divider before and behind it included, and the words that are left.
    -/
def takeArgument (rest : Bool) (words : List (String × Word)) :
    Option (List String × List (String × Word)) :=
  match words.dropWhile isDivider with
  | (w, .plain) :: more =>
    let dividers := (words.takeWhile isDivider).map (·.1)
    if rest then some (dividers ++ w :: more.map (·.1), [])
    else some (dividers ++ w :: (more.takeWhile isDivider).map (·.1), more.dropWhile isDivider)
  | _ => none

/-- The words of as many arguments as there are before the next option. `wanted` arguments are
    missing. -/
def takeArguments (f : Form) : Nat → List (String × Word) → List (List String) × List (String × Word)
  | 0, words => ([], words)
  | wanted + 1, words =>
    match takeArgument (f.takesRest && wanted = 0) words with
    | some (argument, more) =>
      let (arguments, more) := f.takeArguments wanted more
      (argument :: arguments, more)
    | none => ([], words)

/-- Take the options, which ends the reading if help is among them. -/
def takeOptions (f : Form) (r : Reading) (taken : List (OptionKey × Option String)) :
    Except Stop Reading :=
  if taken.any (·.1 = .help) then .error (.help f.helpText)
  else .ok { r with options := r.options ++ taken }

/-- Take an option at the front of the words behind it. -/
def takeGiven (f : Form) (r : Reading) (given : Given) (words : List (String × Word)) :
    Except Stop (Reading × List (String × Word)) := do
  let u ← given.unfold f
  let r' := { r with leftOver := r.leftOver ++ u.leftOver }
  match u.pending with
  | none => return (← f.takeOptions r' u.taken, words)
  | some o =>
    if o.takesValue then
      match words with
      | (w, .plain) :: more => return (← f.takeOptions r' (u.taken ++ [(o.key, some w)]), more)
      | _ => throw (f.misuse ("argument " ++ o.title ++ ": expected one argument"))
    else return (← f.takeOptions r' (u.taken ++ [(o.key, none)]), words)

/-- Read the words. Every step takes at least one, so `fuel` above their number is enough. -/
def readWords (f : Form) : Nat → Reading → List (String × Word) → Except Stop Reading
  | 0, r, _ => .ok r
  | _, r, [] => .ok r
  | fuel + 1, r, (w, .option given) :: words =>
    match given with
    | none => f.readWords fuel { r with leftOver := r.leftOver ++ [w] } words
    | some g => do
      let (r, words) ← f.takeGiven r g words
      f.readWords fuel r words
  | fuel + 1, r, words =>
    match f.takeArguments (f.arguments.length - r.arguments.length) words with
    | ([], _) =>
      let extra := (words.takeWhile (!isOption ·)).map (·.1)
      f.readWords fuel { r with leftOver := r.leftOver ++ extra } (words.dropWhile (!isOption ·))
    | (arguments, words) => f.readWords fuel { r with arguments := r.arguments ++ arguments } words

/-- Read a command line. -/
def read (f : Form) (words : List String) : Except Stop Reading := do
  let kinds ← f.wordKinds words
  f.readWords (kinds.length + 1) {} kinds

/-- Read a command line that has to hold all arguments. -/
def readAll (f : Form) (words : List String) : Except Stop Reading := do
  let r ← f.read words
  match f.arguments.drop r.arguments.length with
  | [] => return r
  | missing => throw (f.misuse ("the following arguments are required: " ++
      String.intercalate ", " missing))

end Form

namespace Form.Reading

/-- Whether an option was given. -/
def has (r : Reading) (key : OptionKey) : Bool := r.options.any (·.1 = key)

/-- The value of an option, the last one if it was given repeatedly. -/
def value? (r : Reading) (key : OptionKey) : Option String :=
  (r.options.reverse.find? (·.1 = key)).bind (·.2)

/-- An argument. One divider among its words is dropped, and with it an argument that looks like a
    divider and has none. -/
def argument? (r : Reading) (i : Nat) : Option String :=
  match (r.arguments.getD i []).erase "--" with
  | [word] => some word
  | _ => none

end Form.Reading

/-! ## Commands -/

/-- A command, with what it was given. -/
inductive Command
  /-- Expand a file, into another one or to the output. -/
  | expand (file : String) (output : Option String)
  /-- List what would be generated for a file. -/
  | plan (file : String) (asDocument : Bool)
  /-- Compare the expansion of a file with another file. -/
  | check (file : String) (expanded : Option String)
deriving DecidableEq, Repr

/-- What a command line asks for. -/
structure Request where
  colours : Bool
  verbose : Bool
  command : Option Command
deriving DecidableEq, Repr

/-- The option that all forms have. -/
def helpOption : OptionForm := ⟨.help, ["-h", "--help"], false⟩

/-- The name under which the program is called. -/
def programName : String := "autolens"

/-- The form of a command line as a whole. -/
def mainForm : Form where
  program := programName
  usage := "autolens [-h] [--no-color] [-v] \x7bexpand,plan,check\x7d ..."
  help :=
    ["",
     "autolens: derive lenses for frozen dataclasses",
     "",
     "positional arguments:",
     "  \x7bexpand,plan,check\x7d  Command to run",
     "    expand             Write the module with generated members",
     "    plan               Show fields, constructor and lenses per declaration",
     "    check              Verify an expanded module is up to date",
     "",
     "options:",
     "  -h, --help           show this help message and exit",
     "  --no-color           Disable colored output",
     "  -v, --verbose        Log derivation details",
     "",
     "examples:",
     "  autolens expand models.py -o models_gen.py",
     "  autolens plan models.py --json",
     "  autolens check models.py models_gen.py"]
  options := [helpOption, ⟨.noColours, ["--no-color"], false⟩, ⟨.verbose, ["-v", "--verbose"], false⟩]
  arguments := ["command"]
  takesRest := true

/-- The form of what stands behind `expand`. -/
def expandForm : Form where
  program := "autolens expand"
  usage := "autolens expand [-h] [-o OUTPUT] file"
  help :=
    ["",
     "positional arguments:",
     "  file                  Python module to expand",
     "",
     "options:",
     "  -h, --help            show this help message and exit",
     "  -o OUTPUT, --output OUTPUT",
     "                        Output file path (default: stdout)"]
  options := [helpOption, ⟨.output, ["-o", "--output"], true⟩]
  arguments := ["file"]

/-- The form of what stands behind `plan`. -/
def planForm : Form where
  program := "autolens plan"
  usage := "autolens plan [-h] [--json] file"
  help :=
    ["",
     "positional arguments:",
     "  file        Python module to analyze",
     "",
     "options:",
     "  -h, --help  show this help message and exit",
     "  --json      Machine-readable output"]
  options := [helpOption, ⟨.json, ["--json"], false⟩]
  arguments := ["file"]

/-- The form of what stands behind `check`. -/
def checkForm : Form where
  program := "autolens check"
  usage := "autolens check [-h] file expanded"
  help :=
    ["",
     "positional arguments:",
     "  file        Python module with @autolens declarations",
     "  expanded    Previously expanded module",
     "",
     "options:",
     "  -h, --help  show this help message and exit"]
  options := [helpOption]
  arguments := ["file", "expanded"]

/-- The commands by their names. -/
def commandForms : List (String × Form × (Form.Reading → Command)) :=
  [("expand", expandForm, fun r => .expand ((r.argument? 0).getD "") (r.value? .output)),
   ("plan", planForm, fun r => .plan ((r.argument? 0).getD "") (r.has .json)),
   ("check", checkForm, fun r => .check ((r.argument? 0).getD "") (r.argument? 1))]

/-- Read a command line. The words behind the name of a command are read against its own form. -/
def Request.ofWords (words : List String) : Except Stop Request := do
  let top ← mainForm.read words
  let (command, leftOver) ← match top.arguments with
    | (name :: rest) :: _ =>
      match commandForms.lookup name with
      | some (form, make) => do
        let r ← form.readAll rest
        pure (some (make r), r.leftOver)
      | none => throw (mainForm.misuse ("argument command: invalid choice: " ++ Text.quote name ++
          " (choose from " ++ String.intercalate ", " (commandForms.map (Text.quote ·.1)) ++ ")"))
    | _ => pure (none, [])
  match top.leftOver ++ leftOver with
  | [] => return ⟨!top.has .noColours, top.has .verbose, command⟩
  | extra => throw (mainForm.misuse ("unrecognized arguments: " ++ String.intercalate " " extra))

end RecordLens
